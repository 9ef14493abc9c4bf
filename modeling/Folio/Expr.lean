import Folio.Operator
import Folio.ValueType

/-!
# Expressions over documents

The tree is deliberately small: connectives, comparisons, method calls, members and constants. Whatever can be
asked of a document is one of these shapes, and what has no form in SQL is rejected when it is compiled.
-/

namespace Folio

/-- A step on the way to a member. -/
inductive Segment
  | field (name : String)
  | index (i : Nat)
  deriving Repr, DecidableEq

/-- A member of a document, by the way to it. The names are those of the program, not those of the stored text. -/
structure Member where
  segments : List Segment
  type : ValueType
  nullable : Bool
  deriving Repr, DecidableEq

/-- An expression over a document. -/
inductive Expr
  | and (left right : Expr)
  | or (left right : Expr)
  | not (inner : Expr)
  | compare (left : Expr) (op : Operator) (right : Expr)
  /-- A method by its name, called on a target or by itself. -/
  | call (method : String) (target : Option Expr) (args : List Expr)
  | member (m : Member)
  | value (v : Value)
  deriving Repr, Inhabited

namespace Expr

/-- The member that the expression is, if it is one. -/
def member? : Expr → Option Member
  | .member m => some m
  | _ => none

/-- The constant that the expression is, if it is one. -/
def value? : Expr → Option Value
  | .value v => some v
  | _ => none

end Expr

end Folio
