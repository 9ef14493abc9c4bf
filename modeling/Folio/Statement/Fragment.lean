import Folio.Sql.Condition
import Folio.Statement.Binding
import Folio.Statement.Locator

/-!
# Fragments

A fragment is a predicate on documents, on its way from an expression to a condition in SQL. It still holds the
values that it compares with, so it is the same for every dialect and every place in a command.
-/

namespace Folio.Statement

open Folio.Sql (Cast Condition Dialect JsonPath Term)

/-- Where in a text another one is looked for. -/
inductive LikeKind
  | contains
  | startsWith
  | endsWith
  deriving Repr, DecidableEq

/-- A part of a fragment in free form. -/
inductive TemplatePart
  | text (s : String)
  | locator (l : Locator)
  | param (v : Value)
  deriving Repr

/-- A predicate on documents. -/
inductive Fragment
  | compare (l : Locator) (op : Operator) (v : Value)
  | isNull (l : Locator)
  | isNotNull (l : Locator)
  | and (left right : Fragment)
  | or (left right : Fragment)
  | not (inner : Fragment)
  /-- Text that is a condition by itself. -/
  | literal (text : String)
  | inList (l : Locator) (values : List Value)
  /-- Does the text have the needle in it? -/
  | like (l : Locator) (kind : LikeKind) (needle : String)
  /-- Is it the text, without regard to case? -/
  | equalFolded (l : Locator) (text : String)
  /-- Is it missing or empty, or when `whitespace`, blank? -/
  | nullOrBlank (l : Locator) (whitespace : Bool)
  /-- Does the array at the path have the value as an element? -/
  | arrayContains (path : JsonPath) (element : Conversion) (v : Value)
  /-- A predicate in free form. -/
  | template (parts : List TemplatePart)
  deriving Repr

namespace Fragment

/-- A predicate that no document meets. -/
def never : Fragment := .literal "1=0"

/-- Is it one of these values? -/
def among (l : Locator) (values : List Value) : Fragment :=
  if values.isEmpty then never else .inList l values

end Fragment

/-! ## Patterns -/

/-- A character of a pattern that stands for itself. -/
def patternChar (d : Dialect) (c : Char) : List Char :=
  match d with
  | .mssql => if c = '[' || c = '%' || c = '_' then ['[', c, ']'] else [c]
  | .sqlite => if c = '\\' || c = '%' || c = '_' then ['\\', c] else [c]

/-- The pattern of the texts that have the needle where `kind` says. -/
def likePattern (d : Dialect) (kind : LikeKind) (needle : String) : String :=
  let escaped := needle.toList.flatMap (patternChar d)
  String.ofList <|
    match kind with
    | .contains => '%' :: (escaped ++ ['%'])
    | .startsWith => escaped ++ ['%']
    | .endsWith => '%' :: escaped

/-! ## Conditions -/

/-- Binds a value that a located member is compared with. SQLite compares timestamps in a layout of its own, so
there the value is brought into it too. -/
def bindOperand (d : Dialect) (l : Locator) (v : Value) : Binding Term := do
  let t ← bindValue v
  if d = .sqlite && l.conversion = .cast .timestamp && !v.isNull then
    return .cast .timestamp t
  else
    return t

/-- How an element of an array is read. -/
def elementTerm (d : Dialect) (c : Conversion) : Term :=
  c.apply (if d = .sqlite && c = .boolText then .elementType else .element)

/-- The condition that a text is empty, or when `whitespace`, blank. -/
def blankCondition (d : Dialect) (t : Term) (whitespace : Bool) : Condition :=
  match whitespace, d with
  | false, .mssql => .compare (.byteLength t) .eq (.number 0)
  | false, .sqlite => .compare t .eq .emptyText
  | true, _ => .compare (.trimmed t) .eq .emptyText

/-- The part in free form, its value bound. -/
def TemplatePart.toPart (d : Dialect) : TemplatePart → Binding Sql.Part
  | .text s => return .text s
  | .locator l => return .term (l.toTerm d)
  | .param v => return .term (← bindValue v)

/-- The condition for a fragment, its values bound from left to right. -/
def Fragment.toCondition (d : Dialect) : Fragment → Binding Condition
  | .compare l op v => return .compare (l.toTerm d) op (← bindOperand d l v)
  | .isNull l => return .isNull (l.toTerm d)
  | .isNotNull l => return .isNotNull (l.toTerm d)
  | .and left right => return .and (← left.toCondition d) (← right.toCondition d)
  | .or left right => return .or (← left.toCondition d) (← right.toCondition d)
  | .not inner => return .not (← inner.toCondition d)
  | .literal text => return .literal text
  | .inList _ [] => return .never
  | .inList l (v :: vs) => return .inList (l.toTerm d) (← (v :: vs).mapM (bindOperand d l))
  | .like l kind needle => return .like (l.toTerm d) (← bindValue (.text (likePattern d kind needle)))
  | .equalFolded l text => return .equalFolded (l.toTerm d) (← bindValue (.text text))
  | .nullOrBlank l whitespace =>
    return .or (.isNull (l.toTerm d)) (blankCondition d (l.toTerm d) whitespace)
  | .arrayContains path element v => return .anyElement path (elementTerm d element) (← bindValue v)
  | .template parts => return .template (← parts.mapM (TemplatePart.toPart d))

end Folio.Statement
