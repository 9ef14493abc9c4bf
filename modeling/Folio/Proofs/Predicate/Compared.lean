import Folio.Proofs.Predicate.Stored
import Folio.Proofs.Value.Cast

/-!
# Folio.Proofs.Predicate.Compared

What a database finds of a member compares with the parameter for a constant as the member's value
compares with the constant.

* `Library.between`: the order of two values, booleans having one of their own.
* `ValueType.constant_of_cast`: what a constant is cast to.
* `Library.Speaks.compare_param`, `Library.compare_identity`: comparisons with a parameter.
-/

namespace Folio

open Folio.Sql (Dialect JsonPath)
open Folio.Predicate
open Folio.Relational

theorem Predicate.Scalar.toParam_null (s : Scalar) : s.toParam .null = .ok .null := by
  obtain ⟨type, storage⟩ := s
  cases storage <;> cases type <;> rfl

namespace Relational

/-! ### Comparisons -/

theorem exactly_swap {equal less less' : Bool} (other : equal = false → less' = !less) :
    exactly equal less' = (exactly equal less).swap := by
  cases equal with
  | true => rfl
  | false =>
    rw [other rfl]
    cases less <;> rfl

namespace Library

variable {L : Library} {d : Dialect}

/-- The order of two values turned around. -/
theorem Speaks.compare_swap (speaks : L.Speaks d) (v w : Value) :
    L.compare w v = (L.compare v w).map Ordering.swap := by
  have text (s t : String) : L.compare (.text t) (.text s) =
      (L.compare (.text s) (.text t)).map Ordering.swap := by
    simp only [compare, Option.map_some, eq_comm (a := t)]
    exact congrArg some (exactly_swap fun h => speaks.less_text s t (of_decide_eq_false h))
  have uuid (u u' : Uuid) : L.compare (.uuid u') (.uuid u) =
      (L.compare (.uuid u) (.uuid u')).map Ordering.swap := by
    simp only [compare, Option.map_some, eq_comm (a := u')]
    exact congrArg some (exactly_swap fun h => speaks.less_uuid u u' (of_decide_eq_false h))
  have int32 (n m : Int32) : L.compare (.int32 m) (.int32 n) =
      (L.compare (.int32 n) (.int32 m)).map Ordering.swap := by
    simp only [compare, Option.map_some, eq_comm (a := m)]
    refine congrArg some (exactly_swap fun h => ?_)
    have apart : n.toInt ≠ m.toInt := fun same => of_decide_eq_false h (Int32.toInt_inj.mp same)
    have turned : m < n ↔ ¬n < m := by
      rw [Int32.lt_iff_toInt_lt, Int32.lt_iff_toInt_lt]
      omega
    simp only [turned, decide_not]
  have int64 (n m : Int64) : L.compare (.int64 m) (.int64 n) =
      (L.compare (.int64 n) (.int64 m)).map Ordering.swap := by
    simp only [compare, Option.map_some, eq_comm (a := m)]
    refine congrArg some (exactly_swap fun h => ?_)
    have apart : n.toInt ≠ m.toInt := fun same => of_decide_eq_false h (Int64.toInt_inj.mp same)
    have turned : m < n ↔ ¬n < m := by
      rw [Int64.lt_iff_toInt_lt, Int64.lt_iff_toInt_lt]
      omega
    simp only [turned, decide_not]
  cases v <;> cases w <;>
    first
    | exact speaks.order_swap _ _
    | exact text _ _
    | exact uuid _ _
    | exact int32 _ _
    | exact int64 _ _
    | rfl

/-- The order of the values of a member. Booleans have their own, whatever the database. -/
def between (L : Library) : Value → Value → Option Ordering
  | .bool a, .bool b => some (exactly (a = b) (!a && b))
  | v, w => L.compare v w

theorem Speaks.between_swap (speaks : L.Speaks d) (v w : Value) :
    L.between w v = (L.between v w).map Ordering.swap := by
  by_cases booleans : ∃ a b, v = .bool a ∧ w = .bool b
  · obtain ⟨a, b, rfl, rfl⟩ := booleans
    cases a <;> cases b <;> rfl
  · have same : L.between v w = L.compare v w ∧ L.between w v = L.compare w v := by
      cases v <;> cases w <;>
        first
        | exact ⟨rfl, rfl⟩
        | exact absurd ⟨_, _, rfl, rfl⟩ booleans
    rw [same.1, same.2]
    exact speaks.compare_swap v w

end Library

end Relational

/-- An operator with its sides exchanged. -/
theorem Operator.flip_holds (op : Operator) (o : Ordering) : op.flip.holds o = op.holds o.swap := by
  cases op <;> cases o <;> rfl

/-! ### Constants -/

namespace ValueType

variable {c p : Value}

theorem constant_of_cast {type : ValueType} (h : type.cast c = .ok p) (scalar : ∀ e, p ≠ .enum e) :
    type.constant c = some p := by
  rw [constant, h]
  cases p with
  | enum e => exact absurd rfl (scalar e)
  | _ => rfl

end ValueType

namespace Relational

variable {L : Library} {d : Dialect}

theorem compare_toInt (n m : Int32) : Ord.compare n.toInt m.toInt = exactly (n = m) (n < m) := by
  rcases lt_trichotomy n.toInt m.toInt with less | same | greater
  · have apart : n ≠ m := fun same => less.ne (congrArg Int32.toInt same)
    rw [compare_lt_iff_lt.mpr less, decide_eq_false apart,
      decide_eq_true (Int32.lt_iff_toInt_lt.mpr less)]
    rfl
  · rw [compare_eq_iff_eq.mpr same, decide_eq_true (Int32.toInt_inj.mp same)]
    rfl
  · have apart : n ≠ m := fun same => greater.ne' (congrArg Int32.toInt same)
    have above : ¬n < m := fun less => greater.asymm (Int32.lt_iff_toInt_lt.mp less)
    rw [compare_gt_iff_gt.mpr greater, decide_eq_false apart, decide_eq_false above]
    rfl

/-- Booleans have the order of their texts. -/
theorem Library.Speaks.compare_boolean (speaks : L.Speaks d) (a b : Bool) :
    L.compare (.text (if a then "true" else "false")) (.text (if b then "true" else "false")) =
      some (exactly (a = b) (!a && b)) := by
  have apart : "false" ≠ "true" := by decide
  have turned := speaks.less_text "false" "true" apart
  cases a <;> cases b <;>
    simp [Library.compare, exactly, turned, speaks.false_less_true]

/-- What a member is stored as compares with the parameter for a constant as the member's value
compares with the constant. -/
theorem Library.Speaks.compare_param (speaks : L.Speaks d) {enums : EnumStorage} {type : ValueType}
    {x : Json} {v c p : Value} (simple : type.IsSimple enums) (stands : type.Stands x v)
    (present : c.isNull = false) (param : (Scalar.ofType enums type).toParam c = .ok p) :
    ∃ w, type.constant c = some w ∧ L.compare (storedAs d v) p = L.between v w := by
  have there := Value.ne_null_of_isNull present
  cases stands with
  | bool a =>
    cases c with
    | null => cases present
    | bool b =>
      obtain rfl := Except.ok.inj param
      exact ⟨.bool b, rfl, speaks.compare_boolean a b⟩
    | _ => cases param
  | int32 n =>
    have cast : ValueType.int32.cast c = .ok p := by cases c <;> exact param
    obtain ⟨m, rfl⟩ := ValueType.has_of_cast_scalar cast there nofun
    refine ⟨_, ValueType.constant_of_cast cast nofun, ?_⟩
    cases d with
    | mssql => rfl
    | sqlite =>
      refine (speaks.order_whole rfl n.toInt64 m).trans ?_
      rw [Int32.toInt_toInt64]
      exact congrArg some (compare_toInt n m)
  | int64 n =>
    have cast : ValueType.int64.cast c = .ok p := by cases c <;> exact param
    obtain ⟨m, rfl⟩ := ValueType.has_of_cast_scalar cast there nofun
    exact ⟨_, ValueType.constant_of_cast cast nofun, rfl⟩
  | enum n =>
    obtain rfl : enums = .asInteger := simple
    cases c with
    | null => cases present
    | _ =>
      obtain rfl := Except.ok.inj param
      exact ⟨_, rfl, rfl⟩
  | text s =>
    have cast : ValueType.text.cast c = .ok p := by cases c <;> exact param
    obtain ⟨t, rfl⟩ := ValueType.has_of_cast_scalar cast there nofun
    exact ⟨_, ValueType.constant_of_cast cast nofun, rfl⟩
  | uuid u =>
    have cast : ValueType.uuid.cast c = .ok p := by cases c <;> exact param
    obtain ⟨w, rfl⟩ := ValueType.has_of_cast_scalar cast there nofun
    refine ⟨_, ValueType.constant_of_cast cast nofun, ?_⟩
    cases d with
    | mssql => rfl
    | sqlite =>
      refine (speaks.order_uuid rfl u.toText w).trans ?_
      show some (exactly _ _) = some (exactly _ _)
      rw [speaks.less_uuid_text rfl]
      simp only [Uuid.toText_injective.eq_iff]

/-- An identity compares with the parameter for a constant as the two values do. -/
theorem Library.compare_identity {type : ValueType} {id : DocumentId} {v c p : Value}
    (stands : type.ofId id = some v) (present : c.isNull = false) (cast : type.cast c = .ok p) :
    ∃ w, type.constant c = some w ∧ L.compare id.toValue p = L.between v w := by
  have there := Value.ne_null_of_isNull present
  cases type <;> cases id <;> try cases stands
  · obtain ⟨m, rfl⟩ := ValueType.has_of_cast_scalar cast there nofun
    exact ⟨_, ValueType.constant_of_cast cast nofun, rfl⟩
  · obtain ⟨m, rfl⟩ := ValueType.has_of_cast_scalar cast there nofun
    exact ⟨_, ValueType.constant_of_cast cast nofun, rfl⟩
  · obtain ⟨t, rfl⟩ := ValueType.has_of_cast_scalar cast there nofun
    exact ⟨_, ValueType.constant_of_cast cast nofun, rfl⟩
  · obtain ⟨u, rfl⟩ := ValueType.has_of_cast_scalar cast there nofun
    exact ⟨_, ValueType.constant_of_cast cast nofun, rfl⟩

theorem Library.compare_null (v : Value) : L.compare .null v = none := by
  cases v <;> rfl

/-- Only timestamps are compared in a form of their own. -/
theorem Library.operand_typed {enums : EnumStorage} {type : ValueType} (path : JsonPath)
    (simple : type.IsSimple enums) (p : Value) :
    L.operand d (Located.inDocument enums path type).typed p = p := by
  refine if_neg fun timestamp => ?_
  cases type with
  | timestamp => cases simple
  | _ => cases enums <;> cases d <;> cases timestamp

end Relational

end Folio
