import Folio.Number.Whole
import Mathlib

/-!
# Folio.Proofs.Number.Digits

Numerals, and the reader of whole numbers: it takes the numerals of numbers within its bounds, and no others
(`readWhole_eq_ok`).
-/

namespace Folio.Number

/-- The number that decimal digits denote, of which there is at least one. -/
def digits? (cs : List Char) : Option Nat :=
  if cs ≠ [] ∧ cs.all Char.isDigit = true then some (Nat.ofDigitChars 10 cs 0) else none

/-- A magnitude with its sign. -/
def signed (negative : Bool) (n : Nat) : Int :=
  if negative then -n else n

/-- The number that a numeral denotes, which is decimal digits after an optional sign. -/
def numeral? : List Char → Option Int
  | '-' :: cs => (digits? cs).map (signed true)
  | '+' :: cs => (digits? cs).map (signed false)
  | cs => (digits? cs).map (signed false)

/-! ### Readers -/

variable {lo hi m : Int} {negative : Bool} {k : Nat} {cs : List Char}

theorem digit?_eq (c : Char) : digit? c = if c.isDigit then some (c.toNat - '0'.toNat) else none := by
  simp [digit?, Char.isDigit, Char.le_def]

theorem le_ofDigitChars (k : Nat) (cs : List Char) : k ≤ Nat.ofDigitChars 10 cs k := by
  induction cs generalizing k with
  | nil => exact le_rfl
  | cons c rest ih =>
    rw [Nat.ofDigitChars_cons]
    exact le_trans (by omega) (ih _)

theorem signed_next (negative : Bool) (k d : Nat) :
    (if negative then signed negative k * 10 - d else signed negative k * 10 + d) =
      signed negative (10 * k + d) := by
  cases negative with
  | false => simp only [signed, Bool.false_eq_true, if_false]; omega
  | true => simp only [signed, if_true]; omega

/-- More digits take a number further from zero, so it has been within bounds all the way if it is in the
end. -/
theorem signed_within {j : Nat} (zero : lo ≤ 0 ∧ 0 ≤ hi) (le : k ≤ j)
    (h : lo ≤ signed negative j ∧ signed negative j ≤ hi) :
    lo ≤ signed negative k ∧ signed negative k ≤ hi := by
  cases negative with
  | false => simp only [signed, Bool.false_eq_true, if_false] at h ⊢; omega
  | true => simp only [signed, if_true] at h ⊢; omega

/-- The reader of digits takes numbers within the bounds, and no others. -/
theorem readDigits_eq_ok (zero : lo ≤ 0 ∧ 0 ≤ hi)
    (within : lo ≤ signed negative k ∧ signed negative k ≤ hi) :
    readDigits lo hi negative (signed negative k) cs = .ok m ↔
      cs.all Char.isDigit = true ∧ m = signed negative (Nat.ofDigitChars 10 cs k) ∧ lo ≤ m ∧ m ≤ hi := by
  induction cs generalizing k with
  | nil =>
    simp only [readDigits, List.all_nil, Nat.ofDigitChars_nil, true_and]
    constructor
    · rintro ⟨⟩
      exact ⟨rfl, within⟩
    · rintro ⟨rfl, -⟩
      rfl
  | cons c rest ih =>
    rw [readDigits, digit?_eq, List.all_cons, Bool.and_eq_true, Nat.ofDigitChars_cons]
    by_cases digit : c.isDigit = true
    · simp only [digit, if_true, true_and, signed_next]
      by_cases next : lo ≤ signed negative (10 * k + (c.toNat - '0'.toNat)) ∧
          signed negative (10 * k + (c.toNat - '0'.toNat)) ≤ hi
      · rw [if_neg (by omega), if_neg (by omega)]
        exact ih next
      · -- Out of bounds already, and so in the end.
        refine iff_of_false ?_ ?_
        · split
          · nofun
          · rw [if_pos (by omega)]
            nofun
        · rintro ⟨-, rfl, bounds⟩
          exact next (signed_within zero (le_ofDigitChars _ rest) bounds)
    · simp only [digit, Bool.false_eq_true, if_false, false_and, iff_false]
      nofun

theorem readDigits_zero_eq_ok (zero : lo ≤ 0 ∧ 0 ≤ hi) (some : cs ≠ []) :
    readDigits lo hi negative 0 cs = .ok m ↔
      (digits? cs).map (signed negative) = .some m ∧ lo ≤ m ∧ m ≤ hi := by
  have start : signed negative 0 = 0 := by cases negative <;> rfl
  have read : readDigits lo hi negative (signed negative 0) cs = .ok m ↔ _ :=
    readDigits_eq_ok zero (start ▸ zero)
  rw [start] at read
  rw [read, digits?]
  by_cases all : cs.all Char.isDigit = true
  · rw [if_pos ⟨some, all⟩]
    simp [all, eq_comm]
  · rw [if_neg fun h => all h.2]
    simp [all]

theorem readWhole_eq_ok (zero : lo ≤ 0 ∧ 0 ≤ hi) :
    readWhole lo hi cs = .ok m ↔ numeral? cs = some m ∧ lo ≤ m ∧ m ≤ hi := by
  unfold readWhole
  split
  next => exact iff_of_false nofun nofun
  next => exact iff_of_false nofun nofun
  next => exact iff_of_false nofun nofun
  next rest some => exact readDigits_zero_eq_ok zero fun none => some (none ▸ rfl)
  next rest some => exact readDigits_zero_eq_ok zero fun none => some (none ▸ rfl)
  next some _ _ plus minus =>
    rw [numeral?]
    · exact readDigits_zero_eq_ok zero some
    · exact minus
    · exact plus

/-! ### Digits of a number -/

theorem isDigit_of_mem_digits {n : Nat} {c : Char} (mem : c ∈ Nat.toDigits 10 n) : c.isDigit = true :=
  Nat.isDigit_of_mem_toDigits (by decide) (by decide) mem

/-- The digits of a number begin with a zero only if they are that zero. -/
theorem head_digits_ne_zero {n : Nat} (positive : 0 < n) :
    ∃ c rest, Nat.toDigits 10 n = c :: rest ∧ c ≠ '0' := by
  induction n using Nat.strong_induction_on with
  | h n ih =>
    by_cases short : n < 10
    · refine ⟨_, [], Nat.toDigits_of_lt_base short, ?_⟩
      have digit : ∀ d < 10, 0 < d → Nat.digitChar d ≠ '0' := by decide
      exact digit n short positive
    · obtain ⟨c, rest, digits, first⟩ := ih (n / 10) (by omega) (by omega)
      refine ⟨c, rest ++ [Nat.digitChar (n % 10)], ?_, first⟩
      rw [Nat.toDigits_of_base_le (by decide) (by omega), digits]
      rfl

end Folio.Number
