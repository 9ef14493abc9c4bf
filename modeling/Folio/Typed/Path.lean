import Folio.Predicate.BuiltIn
import Folio.Typed.Shape

/-!
# Predicates on typed members

The expressions that can be said about a member whose shape is known.
-/

namespace Folio.Typed

open Folio.Predicate (ignoreCase)

/-- A way to a member: first the objects around it, then the member itself. -/
structure Path where
  member : Member
  deriving Repr, DecidableEq

namespace Path

/-- The way to the document itself, where all ways begin. -/
def root : Path :=
  ⟨⟨[], .object, false⟩⟩

/-- A step further, to a member of the shape. -/
def field (p : Path) (name : String) (shape : Shape) : Path :=
  ⟨⟨p.member.segments ++ [.field name], shape.type, shape.nullable⟩⟩

/-- A step further, to an object, which may always be missing. -/
def object (p : Path) (name : String) : Path :=
  ⟨⟨p.member.segments ++ [.field name], .object, true⟩⟩

/-- The member as an expression. -/
def expr (p : Path) : Expr :=
  .member p.member

/-- A comparison of the member. -/
def compare (p : Path) (op : Operator) (right : Expr) : Expr :=
  .compare p.expr op right

/-- The member is missing. -/
def isNull (p : Path) : Expr :=
  p.compare .eq (.value .null)

/-- The member is there. -/
def isNotNull (p : Path) : Expr :=
  p.compare .ne (.value .null)

/-- The list of these expressions: a constant if all of them are. -/
def listExpr (items : List Expr) : Expr :=
  match items.mapM Expr.value? with
  | some values => .value (.list values)
  | none => .call "list" none items

/-- The member is one of these. -/
def inList (p : Path) (items : List Expr) : Expr :=
  .call "contains" (some (listExpr items)) [p.expr]

/-- A method called on the member. -/
def call (p : Path) (method : String) (args : List Value) : Expr :=
  .call method (some p.expr) (args.map .value)

/-- The text has the needle in it. -/
def contains (p : Path) (needle : String) : Expr :=
  p.call "contains" [.text needle]

/-- The text starts with the other. -/
def startsWith (p : Path) (start : String) : Expr :=
  p.call "starts_with" [.text start]

/-- The text ends with the other. -/
def endsWith (p : Path) (ending : String) : Expr :=
  p.call "ends_with" [.text ending]

/-- The text is the other, without regard to case. -/
def equalsIgnoringCase (p : Path) (other : String) : Expr :=
  p.call "equals" [.text other, .text ignoreCase]

/-- The text is missing or empty. -/
def isNullOrEmpty (p : Path) : Expr :=
  .call "is_null_or_empty" none [p.expr]

/-- The text is missing or blank. -/
def isNullOrWhitespace (p : Path) : Expr :=
  .call "is_null_or_whitespace" none [p.expr]

/-- The list has the item in it. -/
def has (p : Path) (item : Expr) : Expr :=
  .call "contains" (some p.expr) [item]

end Path

/-- All of the predicates hold. -/
def allOf : List Expr → Expr
  | [] => .value (.bool true)
  | first :: rest => rest.foldl .and first

end Folio.Typed
