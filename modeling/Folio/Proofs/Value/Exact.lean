import Folio.Proofs.Number.Digits
import Folio.Proofs.Predicate.Whole
import Folio.Proofs.Value.Cast

/-!
# Folio.Proofs.Value.Exact

Which casts to whole numbers are exact.

What a value denotes is a rational number (`Value.denotes?`): the dyadic one of a floating-point number's
bits, the one of a decimal's coefficient and scale, the one of a numeral. A cast to a type of whole numbers is
exact if it gives the number denoted where that is one of the type, and is an error otherwise
(`ValueType.CastsExactly`).

Numbers of 32 and 64 bits, decimals and texts are checked against the type's bounds, and their casts are
exact. Whole floating-point numbers are not: beyond the bounds the bound itself is given. So a cast is exact
unless its value is such a number (`ValueType.castsExactly_iff`).
-/

namespace Folio

open Folio.Number (Binary64 Decimal numeral?)

/-! ### What values denote -/

namespace Number

/-- The number that a finite floating-point number denotes: the significand, with its sign, at its scale. -/
def Binary64.value? (x : Binary64) : Option ℚ :=
  if x.isFinite then some ((if x.negative then -1 else 1) * x.significand * 2 ^ x.scale) else none

/-- The number that a decimal denotes. -/
def Decimal.value (d : Decimal) : ℚ :=
  d.coefficient / 10 ^ d.scale

end Number

/-- The number that a value denotes, if it denotes one. Blanks around a numeral do not matter. -/
def Value.denotes? : Value → Option ℚ
  | .bool b => some (if b then 1 else 0)
  | .int32 n => some n.toInt
  | .int64 n => some n.toInt
  | .float x => x.value?
  | .decimal d => some d.value
  | .text s => (numeral? (Text.trim s).toList).map Int.cast
  | _ => none

/-- A cast to a type of whole numbers loses nothing. -/
structure ValueType.CastsExactly (type : ValueType) (v : Value) : Prop where
  /-- A number that is given is the one denoted. -/
  exact : ∀ w, type.cast v = .ok w → ∃ n : Int, w.number? = some n ∧ v.denotes? = some (n : ℚ)
  /-- What denotes no whole number of the type is refused. -/
  refused : (∀ n : Int, v.denotes? = some (n : ℚ) → ¬type.Fits n) → ∃ f, type.cast v = .error f
  /-- A whole number of the type is given, as a value of the type. -/
  taken : ∀ n : Int, v.denotes? = some (n : ℚ) → type.Fits n →
    ∃ w, type.cast v = .ok w ∧ type.Has w ∧ w.number? = some n

/-- A whole floating-point number that is none of the type. -/
def ValueType.Saturates (type : ValueType) (v : Value) : Prop :=
  ∃ (x : Binary64) (n : Int), v = .float x ∧ x.value? = some (n : ℚ) ∧ ¬type.Fits n

/-! ### Floating-point numbers and decimals -/

namespace Number

namespace Binary64

variable {x : Binary64} {n : Int}

theorem fraction_pos (x : Binary64) : 0 < x.fraction.2 := by
  unfold fraction
  split
  · exact Nat.one_pos
  · exact Nat.two_pow_pos _

theorem magnitude_eq (x : Binary64) :
    (x.significand : ℚ) * 2 ^ x.scale = x.fraction.1 / x.fraction.2 := by
  unfold fraction
  split
  next up =>
    obtain ⟨k, scale⟩ := Int.eq_ofNat_of_zero_le up
    simp [scale]
  next down =>
    obtain ⟨k, scale⟩ := Int.exists_eq_neg_ofNat (a := x.scale) (by omega)
    simp [scale, div_eq_mul_inv]

/-- A fraction is whole if its denominator divides its numerator. -/
theorem div_eq_iff_mul {a b : Nat} (pos : 0 < b) {n : Int} : (a : ℚ) / b = n ↔ (a : Int) = n * b := by
  have ne : (b : ℚ) ≠ 0 := Nat.cast_ne_zero.mpr pos.ne'
  rw [div_eq_iff ne]
  norm_cast

theorem value?_eq_some : x.value? = some (n : ℚ) ↔
    x.isFinite = true ∧ (x.fraction.1 : Int) = (if x.negative then -n else n) * x.fraction.2 := by
  rw [value?, mul_assoc, magnitude_eq, ← div_eq_iff_mul x.fraction_pos]
  cases x.isFinite with
  | false => simp
  | true => cases x.negative <;> simp [neg_eq_iff_eq_neg]

theorem truncate_of_value? (h : x.value? = some (n : ℚ)) : x.truncate = n := by
  have nonzero : (x.fraction.2 : Int) ≠ 0 := Int.natCast_ne_zero.mpr x.fraction_pos.ne'
  have quotient : ((x.fraction.1 / x.fraction.2 : Nat) : Int) = if x.negative then -n else n := by
    rw [Int.natCast_div, (value?_eq_some.mp h).2, Int.mul_ediv_cancel _ nonzero]
  unfold truncate
  simp only [quotient]
  cases x.negative <;> simp

theorem isWhole_iff : x.isWhole = true ↔ ∃ n : Int, x.value? = some (n : ℚ) := by
  simp only [value?_eq_some, isWhole, Bool.and_eq_true, beq_iff_eq, exists_and_left]
  refine and_congr_right fun _ => ⟨fun whole => ?_, fun ⟨n, eq⟩ => ?_⟩
  · have quotient := Nat.div_mul_cancel (Nat.dvd_of_mod_eq_zero whole)
    refine ⟨x.truncate, ?_⟩
    rw [truncate]
    cases x.negative <;> simpa using mod_cast quotient.symm
  · exact Nat.mod_eq_zero_of_dvd (Int.natCast_dvd_natCast.mp (Dvd.intro_left _ eq.symm))

end Binary64

theorem Decimal.toInt?_eq_some {d : Decimal} {n : Int} : d.toInt? = some n ↔ d.value = n := by
  have nonzero : (10 : Int) ^ d.scale ≠ 0 := by positivity
  have whole : d.value = n ↔ d.coefficient = n * 10 ^ d.scale := by
    rw [value, div_eq_iff (by positivity)]
    norm_cast
  rw [whole, toInt?]
  constructor
  · intro h
    obtain ⟨divides, quotient⟩ := Option.ite_none_right_eq_some.mp h
    obtain rfl := Option.some.inj quotient
    exact (Int.ediv_mul_cancel (Int.dvd_of_emod_eq_zero divides)).symm
  · intro eq
    rw [eq, if_pos (Int.mul_emod_left _ _), Int.mul_ediv_cancel _ nonzero]

end Number

/-! ### Casts to whole numbers -/

/-- The number between the bounds that is nearest to one between them is that one itself. -/
theorem clamp_eq_iff {lo hi n : Int} (bounds : lo ≤ hi) : clamp lo hi n = n ↔ lo ≤ n ∧ n ≤ hi := by
  rw [clamp]
  omega

theorem clamp_mem {lo hi : Int} (bounds : lo ≤ hi) (n : Int) :
    lo ≤ clamp lo hi n ∧ clamp lo hi n ≤ hi := by
  rw [clamp]
  omega

@[simp] theorem int32?_toInt (n : Int32) : int32? n.toInt = some n := by
  rw [int32?, if_pos ⟨n.minValue_le_toInt, n.toInt_le⟩, Int32.ofInt_toInt]

@[simp] theorem int64?_toInt_int32 (n : Int32) : int64? n.toInt = some n.toInt64 := by
  rw [← Int32.toInt_toInt64, int64?_toInt]

theorem int32?_clamp (n : Int) : int32? (clamp Int32.minValue.toInt Int32.maxValue.toInt n) =
    some (Int32.ofInt (clamp Int32.minValue.toInt Int32.maxValue.toInt n)) :=
  if_pos (clamp_mem (by decide) n)

theorem int64?_clamp (n : Int) : int64? (clamp Int64.minValue.toInt Int64.maxValue.toInt n) =
    some (Int64.ofInt (clamp Int64.minValue.toInt Int64.maxValue.toInt n)) :=
  if_pos (clamp_mem (by decide) n)

theorem int32?_eq_some {n : Int} {m : Int32} : int32? n = some m ↔
    (Int32.minValue.toInt ≤ n ∧ n ≤ Int32.maxValue.toInt) ∧ Int32.ofInt n = m := by
  simp [int32?]

theorem int64?_eq_some {n : Int} {m : Int64} : int64? n = some m ↔
    (Int64.minValue.toInt ≤ n ∧ n ≤ Int64.maxValue.toInt) ∧ Int64.ofInt n = m := by
  simp [int64?]

theorem map_eq_ok {ε α β : Type} {x : Except ε α} {f : α → β} {b : β} :
    x.map f = .ok b ↔ ∃ a, x = .ok a ∧ f a = b := by
  cases x <;> simp [Except.map]

theorem readInt32_eq_ok {s : String} {m : Int32} :
    Number.readInt32 s = .ok m ↔ (numeral? s.toList).bind int32? = some m := by
  have bounds : Int32.minValue.toInt ≤ 0 ∧ 0 ≤ Int32.maxValue.toInt := by decide
  simp only [Number.readInt32, map_eq_ok, Option.bind_eq_some_iff, int32?_eq_some,
    Number.readWhole_eq_ok bounds, and_assoc]

theorem readInt64_eq_ok {s : String} {m : Int64} :
    Number.readInt64 s = .ok m ↔ (numeral? s.toList).bind int64? = some m := by
  have bounds : Int64.minValue.toInt ≤ 0 ∧ 0 ≤ Int64.maxValue.toInt := by decide
  simp only [Number.readInt64, map_eq_ok, Option.bind_eq_some_iff, int64?_eq_some,
    Number.readWhole_eq_ok bounds, and_assoc]

namespace ValueType

/-- The number as a value of the type. -/
def ofInt? : ValueType → Int → Option Value
  | .int32, n => (int32? n).map .int32
  | .int64, n => (int64? n).map .int64
  | _, _ => none

variable {type : ValueType} {v w : Value} {n : Int}

theorem fits_iff : type.Fits n ↔ ∃ w, type.ofInt? n = some w := by
  cases type with
  | int32 | int64 => simp [Fits, ofInt?, Option.isSome_iff_exists]
  | _ => simp [Fits, ofInt?]

theorem has_of_ofInt? (h : type.ofInt? n = some w) : type.Has w ∧ w.number? = some n := by
  cases type with
  | int32 =>
    obtain ⟨m, range, rfl⟩ := Option.map_eq_some_iff.mp h
    exact ⟨⟨m, rfl⟩, congrArg some (toInt_of_int32? range)⟩
  | int64 =>
    obtain ⟨m, range, rfl⟩ := Option.map_eq_some_iff.mp h
    exact ⟨⟨m, rfl⟩, congrArg some (toInt_of_int64? range)⟩
  | _ => cases h

theorem fits_int32_iff :
    ValueType.int32.Fits n ↔ Int32.minValue.toInt ≤ n ∧ n ≤ Int32.maxValue.toInt := by
  simp [Fits, int32?]

theorem fits_int64_iff :
    ValueType.int64.Fits n ↔ Int64.minValue.toInt ≤ n ∧ n ≤ Int64.maxValue.toInt := by
  simp [Fits, int64?]

/-- A cast is exact if it gives what the number denoted, if there is one, is as a value of the type. -/
theorem castsExactly_of (denoted : Option Int)
    (denotes : ∀ n : Int, v.denotes? = some (n : ℚ) ↔ denoted = some n)
    (gives : ∀ w, type.cast v = .ok w ↔ denoted.bind type.ofInt? = some w) : type.CastsExactly v where
  exact w given := by
    obtain ⟨n, read, own⟩ := Option.bind_eq_some_iff.mp ((gives w).mp given)
    exact ⟨n, (has_of_ofInt? own).2, (denotes n).mpr read⟩
  refused none := by
    cases given : type.cast v with
    | error f => exact ⟨f, rfl⟩
    | ok w =>
      obtain ⟨n, read, own⟩ := Option.bind_eq_some_iff.mp ((gives w).mp given)
      exact absurd (fits_iff.mpr ⟨w, own⟩) (none n ((denotes n).mpr read))
  taken n value fits := by
    obtain ⟨w, own⟩ := fits_iff.mp fits
    exact ⟨w, (gives w).mpr (Option.bind_eq_some_iff.mpr ⟨n, (denotes n).mp value, own⟩),
      has_of_ofInt? own⟩

theorem castsExactly_bool (whole : type.IsWhole) (b : Bool) : type.CastsExactly (.bool b) := by
  refine castsExactly_of (some (if b then 1 else 0)) (fun n => ?_) fun w => ?_
  · cases b <;> simp [Value.denotes?] <;> norm_cast
  · rcases whole with rfl | rfl <;> cases b <;>
      exact (Except.ok.injEq ..).to_iff.trans (Option.some.injEq ..).to_iff.symm

theorem castsExactly_int32 (whole : type.IsWhole) (n : Int32) : type.CastsExactly (.int32 n) := by
  refine castsExactly_of (some n.toInt) (fun m => ?_) fun w => ?_
  · simp [Value.denotes?]
  · rcases whole with rfl | rfl
    · simp [cast, Value.toInt32, ofInt?]
    · simp [cast, Value.toInt64, ofInt?]

theorem castsExactly_int64 (whole : type.IsWhole) (n : Int64) : type.CastsExactly (.int64 n) := by
  refine castsExactly_of (some n.toInt) (fun m => ?_) fun w => ?_
  · simp [Value.denotes?]
  · rcases whole with rfl | rfl
    · exact Value.orCannot_eq_ok
    · simp [cast, Value.toInt64, ofInt?]

theorem castsExactly_decimal (whole : type.IsWhole) (d : Decimal) :
    type.CastsExactly (.decimal d) := by
  refine castsExactly_of d.toInt? (fun n => ?_) fun w => ?_
  · simp [Value.denotes?, Decimal.toInt?_eq_some]
  · rcases whole with rfl | rfl <;> exact Value.orCannot_eq_ok.trans (by rw [Option.map_bind]; rfl)

theorem castsExactly_text (whole : type.IsWhole) (s : String) : type.CastsExactly (.text s) := by
  refine castsExactly_of (numeral? (Text.trim s).toList) (fun n => ?_) fun w => ?_
  · simp [Value.denotes?]
  · rcases whole with rfl | rfl
    · simp only [cast, Value.toInt32, Value.orFault_eq_ok, readInt32_eq_ok, ← Option.map_eq_some_iff,
        Option.map_bind]
      rfl
    · simp only [cast, Value.toInt64, Value.orFault_eq_ok, readInt64_eq_ok, ← Option.map_eq_some_iff,
        Option.map_bind]
      rfl

/-- What does not denote a number is not cast to one. -/
theorem castsExactly_other (whole : type.IsWhole) (there : v ≠ .null) (none : v.denotes? = none)
    (other : ∀ x, v ≠ .float x) (noText : ∀ s, v ≠ .text s) : type.CastsExactly v := by
  refine castsExactly_of .none (fun n => ?_) fun w => ?_
  · simp [none]
  · cases v with
    | uuid | timestamp | enum | list =>
      rcases whole with rfl | rfl <;> exact iff_of_false nofun nofun
    | null => exact absurd rfl there
    | float x => exact absurd rfl (other x)
    | text s => exact absurd rfl (noText s)
    | _ => cases none

/-- A floating-point number that denotes a whole number is cast to the number of the type nearest to it. -/
theorem cast_float (whole : type.IsWhole) {x : Binary64} (value : x.value? = some (n : ℚ)) :
    ∃ w m, type.cast (.float x) = .ok w ∧ type.Has w ∧ w.number? = some m ∧ (m = n ↔ type.Fits n) := by
  have isWhole : x.isWhole = true := Binary64.isWhole_iff.mpr ⟨n, value⟩
  have truncate := Binary64.truncate_of_value? value
  rcases whole with rfl | rfl
  · refine ⟨.int32 (Int32.ofInt (clamp Int32.minValue.toInt Int32.maxValue.toInt n)), _, ?_, ⟨_, rfl⟩,
      rfl, ?_⟩
    · simp only [cast, Value.toInt32, isWhole, if_true, truncate]
    · rw [toInt_of_int32? (int32?_clamp n), clamp_eq_iff (by decide), fits_int32_iff]
  · refine ⟨.int64 (Int64.ofInt (clamp Int64.minValue.toInt Int64.maxValue.toInt n)), _, ?_, ⟨_, rfl⟩,
      rfl, ?_⟩
    · simp only [cast, Value.toInt64, isWhole, if_true, truncate]
    · rw [toInt_of_int64? (int64?_clamp n), clamp_eq_iff (by decide), fits_int64_iff]

theorem cast_float_of_not_whole (whole : type.IsWhole) {x : Binary64} (none : x.isWhole = false) :
    ∃ f, type.cast (.float x) = .error f := by
  rcases whole with rfl | rfl
  · exact ⟨_, by simp only [cast, Value.toInt32, none, Bool.false_eq_true, if_false]; rfl⟩
  · exact ⟨_, by simp only [cast, Value.toInt64, none, Bool.false_eq_true, if_false]; rfl⟩

/-- The cast of a floating-point number is exact unless the number is whole and beyond the bounds. -/
theorem castsExactly_float (whole : type.IsWhole) {x : Binary64}
    (within : ∀ n : Int, x.value? = some (n : ℚ) → type.Fits n) : type.CastsExactly (.float x) := by
  cases isWhole : x.isWhole with
  | false =>
    obtain ⟨f, refused⟩ := cast_float_of_not_whole whole isWhole
    have none (n : Int) : x.value? ≠ some (n : ℚ) := fun value =>
      Bool.false_ne_true (isWhole.symm.trans (Binary64.isWhole_iff.mpr ⟨n, value⟩))
    exact {
      exact := fun w given => nomatch refused.symm.trans given
      refused := fun _ => ⟨f, refused⟩
      taken := fun n value => absurd value (none n) }
  | true =>
    obtain ⟨n, value⟩ := Binary64.isWhole_iff.mp isWhole
    obtain ⟨w, m, given, has, number, near⟩ := cast_float whole value
    obtain rfl := near.mpr (within n value)
    exact {
      exact := fun w' given' => by
        obtain rfl := Except.ok.inj (given.symm.trans given')
        exact ⟨m, number, value⟩
      refused := fun none => absurd (within m value) (none m value)
      taken := fun m' value' _ => by
        obtain rfl : m = m' := by exact_mod_cast Option.some.inj (value.symm.trans value')
        exact ⟨w, given, has, number⟩ }

/-- A whole number beyond the type's bounds is cast to another number. -/
theorem Saturates.cast (h : type.Saturates v) (whole : type.IsWhole) :
    ∃ w n, type.cast v = .ok w ∧ w.number? = some n ∧ v.denotes? ≠ some (n : ℚ) := by
  obtain ⟨x, n, rfl, value, beyond⟩ := h
  obtain ⟨w, m, given, -, number, near⟩ := cast_float whole value
  refine ⟨w, m, given, number, fun same => beyond (near.mp ?_)⟩
  exact_mod_cast (Option.some.inj (value.symm.trans same)).symm

theorem Saturates.ne (h : type.Saturates v) (whole : type.IsWhole) (given : type.cast v = .ok w)
    (number : w.number? = some n) : v.denotes? ≠ some (n : ℚ) := by
  obtain ⟨w', n', given', number', other⟩ := h.cast whole
  obtain rfl := Except.ok.inj (given.symm.trans given')
  obtain rfl := Option.some.inj (number.symm.trans number')
  exact other

theorem castsExactly_of_not_saturates (whole : type.IsWhole) (there : v ≠ .null)
    (within : ¬type.Saturates v) : type.CastsExactly v := by
  cases v with
  | bool b => exact castsExactly_bool whole b
  | int32 n => exact castsExactly_int32 whole n
  | int64 n => exact castsExactly_int64 whole n
  | decimal d => exact castsExactly_decimal whole d
  | text s => exact castsExactly_text whole s
  | float x =>
    refine castsExactly_float whole fun n value => ?_
    by_contra beyond
    exact within ⟨x, n, rfl, value, beyond⟩
  | null => exact absurd rfl there
  | _ => exact castsExactly_other whole there rfl nofun nofun

end ValueType

theorem Value.cast_of_whole {v : Value} {n : Int64} (h : v.whole = .ok n) :
    ValueType.int64.cast v = .ok (.int64 n) := by
  unfold whole at h
  split at h
  next m given =>
    obtain rfl := Except.ok.inj h
    exact given
  next => cases h
  next => cases h

/-- The cast of a value to a type of whole numbers is exact unless the value is a whole floating-point number
beyond the type's bounds, of which it gives another number. So what reads versions and counts gives the number
sent, but for these. -/
theorem ValueType.castsExactly_iff {type : ValueType} (whole : type.IsWhole) {v : Value}
    (there : v ≠ .null) :
    (type.CastsExactly v ↔ ¬type.Saturates v) ∧
    (type.Saturates v → ∃ w n, type.cast v = .ok w ∧ w.number? = some n ∧ v.denotes? ≠ some (n : ℚ)) ∧
    ∀ n, v.whole = .ok n → (v.denotes? = some (n.toInt : ℚ) ↔ ¬ValueType.int64.Saturates v) := by
  refine ⟨⟨fun exactly beyond => ?_, castsExactly_of_not_saturates whole there⟩,
    fun beyond => beyond.cast whole, fun n read => ⟨fun value beyond => ?_, fun within => ?_⟩⟩
  · obtain ⟨w, -, given, -⟩ := beyond.cast whole
    obtain ⟨n, number, value⟩ := exactly.exact w given
    exact beyond.ne whole given number value
  · exact beyond.ne (.inr rfl) (Value.cast_of_whole read) rfl value
  · obtain ⟨m, number, value⟩ :=
      (castsExactly_of_not_saturates (.inr rfl) there within).exact _ (Value.cast_of_whole read)
    obtain rfl := Option.some.inj number
    exact value

namespace Orders

/-- Ten thousand million, as a floating-point number. -/
def tenBillion : Value :=
  .float ⟨0x4202a05f20000000⟩

/-- It is more than 32 bits hold, and becomes another number there. 64 bits hold it. -/
theorem castsExactly_iff_tenBillion :
    ¬ValueType.int32.CastsExactly tenBillion ∧
      ValueType.int32.cast tenBillion = .ok (.int32 2147483647) ∧
      ValueType.int64.CastsExactly tenBillion := by
  have value : tenBillion.denotes? = some ((10000000000 : Int) : ℚ) :=
    Number.Binary64.value?_eq_some.mpr (by decide)
  have beyond : ValueType.int32.Saturates tenBillion := ⟨_, _, rfl, value, nofun⟩
  have within : ¬ValueType.int64.Saturates tenBillion := by
    rintro ⟨x, n, same, denoted, beyond⟩
    obtain rfl := Value.float.inj same
    obtain rfl : 10000000000 = n := by exact_mod_cast Option.some.inj (value.symm.trans denoted)
    exact beyond rfl
  have there : tenBillion ≠ .null := nofun
  exact ⟨fun exactly => (ValueType.castsExactly_iff (.inl rfl) there).1.mp exactly beyond, rfl,
    (ValueType.castsExactly_iff (.inr rfl) there).1.mpr within⟩

end Orders

end Folio
