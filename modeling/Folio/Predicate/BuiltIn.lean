import Folio.Predicate.Method

/-!
# Built-in methods

What every store understands: looking for a part of a text, equality in either regard for case, missing and blank
texts, and membership in lists, be they constant or stored.
-/

namespace Folio.Predicate

open Folio.Statement (Fragment LikeKind)

/-- The second argument of `equals` that asks for equality without regard to case. -/
def ignoreCase : String := "ignore_case"

/-- Where a method looks for a text. -/
def likeKind? : String → Option LikeKind
  | "contains" => some .contains
  | "starts_with" => some .startsWith
  | "ends_with" => some .endsWith
  | _ => none

/-- Looks for a part of a text. -/
def textMatch : Translator where
  accepts call := (likeKind? call.method).isSome && call.targetMember?.any (·.type = .text)
  translate cx call := do
    let l ← (← call.required call.target).member cx
    let v ← (← call.firstArg).constant
    match v.text?, likeKind? call.method with
    | some needle, some kind => return .like l.raw kind needle
    | _, _ => unsupported (.needsText call.method)

/-- Is the case of letters disregarded? -/
def disregardsCase (call : Call) : Outcome Bool :=
  match call.args[1]? with
  | some x => return (← x.constant).text? = some ignoreCase
  | none => return false

/-- Equality with a constant. -/
def equals : Translator where
  accepts call := call.method = "equals" && call.targetMember?.isSome
  translate cx call := do
    let l ← (← call.required call.target).member cx
    let v ← (← call.firstArg).constant
    match v, ← disregardsCase call with
    | .text s, true => return .equalFolded l.raw s
    | .null, _ => return .isNull l.raw
    | v, _ => return .compare l.typed .eq (← l.toParam v)

/-- Missing, empty and blank texts. -/
def nullOrBlank : Translator where
  accepts call :=
    (call.method = "is_null_or_empty" || call.method = "is_null_or_whitespace") && call.target.isNone
  translate cx call := do
    let l ← (← call.firstArg).member cx
    return .nullOrBlank l.raw (call.method = "is_null_or_whitespace")

/-- The constant list that a method is called on, if it is called on one. -/
def targetList? (call : Call) : Option (List Value) :=
  match call.target.bind (·.expr.value?) with
  | some (.list items) => some items
  | _ => none

/-- Membership in a constant list. -/
def constantListContains : Translator where
  accepts call := call.method = "contains" && (targetList? call).isSome
  translate cx call := do
    let l ← (← call.firstArg).member cx
    return .among l.typed (← ((targetList? call).getD []).mapM l.toParam)

/-- Membership in a stored list. -/
def storedListContains : Translator where
  accepts call := call.method = "contains" && call.targetMember?.any (·.type.isList)
  translate cx call := do
    let l ← (← call.required call.target).member cx
    let item ← (← call.firstArg).constant
    match l.path, l.element with
    | some path, some element => return .arrayContains path element.conversion (← element.toParam item)
    | _, _ => unsupported .needsArrayMember

/-- The translators of every store. -/
def builtIn : List Translator :=
  [textMatch, equals, nullOrBlank, constantListContains, storedListContains]

end Folio.Predicate
