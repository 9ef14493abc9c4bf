/-!
# Comparison operators
-/

namespace Folio

/-- A comparison of two values. -/
inductive Operator
  | eq
  | ne
  | ge
  | gt
  | le
  | lt
  deriving Repr, DecidableEq

namespace Operator

/-- The operator as SQL writes it. -/
def sql : Operator → String
  | .eq => "="
  | .ne => "<>"
  | .ge => ">="
  | .gt => ">"
  | .le => "<="
  | .lt => "<"

/-- The operator that holds of `b` and `a` when this one holds of `a` and `b`. -/
def flip : Operator → Operator
  | .eq => .eq
  | .ne => .ne
  | .ge => .le
  | .gt => .lt
  | .le => .ge
  | .lt => .gt

/-- Does the operator hold of two values in the given order? -/
def holds : Operator → Ordering → Bool
  | .eq, o => o == .eq
  | .ne, o => o != .eq
  | .ge, o => o != .lt
  | .gt, o => o == .gt
  | .le, o => o != .gt
  | .lt, o => o == .lt

end Operator

end Folio
