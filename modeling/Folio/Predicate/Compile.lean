import Folio.Predicate.BuiltIn
import Folio.Sql.Query

/-!
# Compiling predicates

An expression over one type of documents becomes a fragment. A boolean member by itself is compared with a
constant, the member of a comparison is brought to its left side, and comparisons with the missing value become
tests for it.
-/

namespace Folio.Predicate

open Folio.Sql (Dialect)
open Folio.Statement (Fragment Locator)

/-- What the expressions over one type of documents are compiled with. -/
structure Compiler where
  dialect : Dialect
  options : Options
  mapping : Mapping
  /-- Translators that come before the built-in ones. -/
  translators : List Translator

namespace Compiler

/-- Locates a member. -/
def locate (c : Compiler) (m : Member) : Outcome Located :=
  Located.ofMember c.options c.mapping m

/-- What translators know. -/
def context (c : Compiler) : Context :=
  ⟨c.dialect, c.locate⟩

/-- A boolean member as a predicate. -/
def boolMember (c : Compiler) (m : Member) (expected : Bool) : Outcome Fragment := do
  if m.type ≠ .bool then unsupported .notBoolean
  else
    let l ← c.locate m
    return .compare l.typed .eq (← l.toParam (.bool expected))

/-- The member, the operator and the constant of a comparison, the member on the left. -/
def sides? (left : Expr) (op : Operator) (right : Expr) : Option (Member × Operator × Value) :=
  match left, right with
  | .member m, .value v => some (m, op, v)
  | .value v, .member m => some (m, op.flip, v)
  | _, _ => none

/-- A member compared with the missing value. -/
def nullTest (l : Located) : Operator → Outcome Fragment
  | .eq => .ok (.isNull l.raw)
  | .ne => .ok (.isNotNull l.raw)
  | op => unsupported (.nullOrdering op)

/-- Does the type have more than one value in it, so that nothing compares with it? -/
def isCollection : ValueType → Bool
  | .list _ | .object => true
  | _ => false

/-- A comparison of a member with a constant. -/
def comparison (c : Compiler) (left : Expr) (op : Operator) (right : Expr) : Outcome Fragment :=
  match sides? left op right with
  | none => unsupported .needsMemberAndConstant
  | some (m, op, v) => do
    let l ← c.locate m
    if v.isNull then nullTest l op
    else if isCollection l.type then unsupported .wholeCollection
    else return .compare l.typed op (← l.toParam v)

mutual

/-- The fragment for a predicate. -/
def compile (c : Compiler) : Expr → Outcome Fragment
  | .and left right => return .and (← c.compile left) (← c.compile right)
  | .or left right => return .or (← c.compile left) (← c.compile right)
  | .not (.member m) => c.boolMember m false
  | .not inner => return .not (← c.compile inner)
  | .member m => c.boolMember m true
  | .value (.bool true) => .ok (.literal "1=1")
  | .value (.bool false) => .ok .never
  | .value v => unsupported (.constantPredicate v.kindName)
  | .compare left op right => c.comparison left op right
  | .call method target args =>
    translateCall (c.translators ++ builtIn) c.context ⟨method, c.targetOperand target, c.operands args⟩

/-- The target of a call in both forms. -/
def targetOperand (c : Compiler) : Option Expr → Option Operand
  | none => none
  | some e => some ⟨e, c.compile e⟩

/-- The arguments of a call in both forms. -/
def operands (c : Compiler) : List Expr → List Operand
  | [] => []
  | e :: rest => ⟨e, c.compile e⟩ :: c.operands rest

end

/-- The place of a member that documents are ordered by. -/
def orderKey (c : Compiler) (m : Member) : Outcome Locator :=
  return (← c.locate m).typed

end Compiler

end Folio.Predicate
