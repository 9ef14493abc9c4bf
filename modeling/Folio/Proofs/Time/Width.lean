import Folio.Proofs.Number.Digits
import Folio.Time.Reader

/-!
# Folio.Proofs.Time.Width

Numbers in texts that have all digits of a width: their order is that of the texts, and they are read back.
-/

namespace Folio.Time

open Folio.Number (digit? digit?_eq)

/-! ### Numbers of a width -/

namespace Timestamp

/-- The last digits of a number, as many as the width. -/
def fixed : Nat → Nat → List Char
  | 0, _ => []
  | width + 1, n => fixed width (n / 10) ++ [Nat.digitChar (n % 10)]

theorem padded_eq_fixed {width n : Nat} (small : n < 10 ^ (width + 1)) :
    padded (width + 1) n = fixed (width + 1) n := by
  induction width generalizing n with
  | zero =>
    have digit : n < 10 := small
    rw [padded, Nat.toDigits_of_lt_base digit, fixed, Nat.mod_eq_of_lt digit]
    rfl
  | succ width ih =>
    have before : n / 10 < 10 ^ (width + 1) := by omega
    rw [fixed, ← ih before, padded, padded]
    by_cases digit : n < 10
    · rw [Nat.toDigits_of_lt_base digit, Nat.div_eq_of_lt digit, Nat.mod_eq_of_lt digit, Nat.toDigits_zero]
      simp only [List.length_singleton, Nat.add_sub_cancel]
      rw [List.replicate_succ']
    · -- one digit more takes the place of one zero
      rw [Nat.toDigits_of_base_le (by decide) (by omega), List.length_append, List.length_singleton,
        Nat.add_sub_add_right, List.append_assoc]

@[simp] theorem length_fixed (width n : Nat) : (fixed width n).length = width := by
  induction width generalizing n with
  | zero => rfl
  | succ width ih => rw [fixed, List.length_append, ih, List.length_singleton]

theorem isDigit_of_mem_fixed {width n : Nat} {c : Char} (mem : c ∈ fixed width n) : c.isDigit := by
  induction width generalizing n with
  | zero => cases mem
  | succ width ih =>
    rcases List.mem_append.mp mem with earlier | last
    · exact ih earlier
    · rw [List.mem_singleton.mp last]
      have digits : ∀ d < 10, (Nat.digitChar d).isDigit := by decide
      exact digits _ (Nat.mod_lt n (by decide))

/-- The value of digits. -/
theorem foldl_fixed {width n : Nat} (small : n < 10 ^ width) :
    (fixed width n).foldl (fun n c => n * 10 + (digit? c).getD 0) 0 = n := by
  induction width generalizing n with
  | zero => simp only [pow_zero, Nat.lt_one_iff] at small; rw [small]; rfl
  | succ width ih =>
    have values : ∀ d < 10, (digit? (Nat.digitChar d)).getD 0 = d := by decide
    have before : n / 10 < 10 ^ width := by omega
    rw [fixed, List.foldl_concat, ih before, values _ (Nat.mod_lt n (by decide))]
    omega

end Timestamp

/-! ### Order of texts -/

/-- Texts that begin alike as to their lengths are in the order of their beginnings, or else of the rest. -/
theorem append_lt_append_iff {α : Type} [LinearOrder α] {as bs : List α} (same : as.length = bs.length)
    (cs ds : List α) : as ++ cs < bs ++ ds ↔ as < bs ∨ as = bs ∧ cs < ds := by
  induction as generalizing bs with
  | nil =>
    obtain rfl := List.eq_nil_of_length_eq_zero same.symm
    simp
  | cons a as ih =>
    cases bs with
    | nil => cases same
    | cons b bs =>
      have same : as.length = bs.length := Nat.succ.inj same
      simp only [List.cons_append, List.cons_lt_cons_iff, ih same, List.cons.injEq]
      tauto

/-- The bytes of a text. -/
def bytes (s : String) : List UInt8 :=
  s.toUTF8.data.toList

theorem bytes_ofList {cs : List Char} (ascii : ∀ c ∈ cs, c.toNat < 128) :
    bytes (String.ofList cs) = cs.map fun c => c.val.toUInt8 := by
  have encoded : cs.flatMap String.utf8EncodeChar = cs.map fun c => c.val.toUInt8 := by
    induction cs with
    | nil => rfl
    | cons c cs ih =>
      obtain ⟨first, rest⟩ := List.forall_mem_cons.mp ascii
      have one : c.utf8Size = 1 := by
        rw [Char.utf8Size_eq_one_iff, UInt32.le_iff_toNat_le]
        exact Nat.le_of_lt_succ first
      rw [List.flatMap_cons, String.utf8EncodeChar_eq_singleton one, ih rest]
      rfl
  rw [bytes, String.toUTF8, String.toByteArray_ofList, List.utf8Encode, List.data_toByteArray, encoded]

/-- Texts of ASCII have the order of their bytes. -/
theorem bytes_lt_iff {cs ds : List Char} (ascii : ∀ c ∈ cs, c.toNat < 128) (ascii' : ∀ d ∈ ds, d.toNat < 128) :
    bytes (String.ofList cs) < bytes (String.ofList ds) ↔ cs < ds := by
  rw [bytes_ofList ascii, bytes_ofList ascii']
  have value {c : Char} (h : c.toNat < 128) : c.val.toUInt8.toNat = c.toNat := by
    rw [UInt32.toNat_toUInt8]
    exact Nat.mod_eq_of_lt (lt_trans h (by decide))
  induction cs generalizing ds with
  | nil => cases ds <;> simp
  | cons c cs ih =>
    cases ds with
    | nil => simp
    | cons d ds =>
      obtain ⟨first, rest⟩ := List.forall_mem_cons.mp ascii
      obtain ⟨first', rest'⟩ := List.forall_mem_cons.mp ascii'
      have less : c.val.toUInt8 < d.val.toUInt8 ↔ c < d := by
        rw [UInt8.lt_iff_toNat_lt, value first, value first']
        exact UInt32.lt_iff_toNat_lt.symm
      have same : c.val.toUInt8 = d.val.toUInt8 ↔ c = d := by
        rw [← UInt8.toNat_inj, value first, value first']
        exact Char.toNat_inj
      rw [List.map_cons, List.map_cons, List.cons_lt_cons_iff, List.cons_lt_cons_iff]
      exact or_congr less (and_congr same (ih rest rest'))

namespace Timestamp

theorem fixed_inj {width m n : Nat} (small : m < 10 ^ width) (small' : n < 10 ^ width) :
    fixed width m = fixed width n ↔ m = n := by
  constructor
  · intro same
    rw [← foldl_fixed small, same, foldl_fixed small']
  · exact congrArg _

theorem fixed_lt_iff {width m n : Nat} (small : m < 10 ^ width) (small' : n < 10 ^ width) :
    fixed width m < fixed width n ↔ m < n := by
  induction width generalizing m n with
  | zero =>
    simp only [pow_zero, Nat.lt_one_iff] at small small'
    rw [small, small']
    simp [fixed]
  | succ width ih =>
    have before : m / 10 < 10 ^ width := by omega
    have before' : n / 10 < 10 ^ width := by omega
    have digits : ∀ d < 10, ∀ e < 10, (Nat.digitChar d < Nat.digitChar e ↔ d < e) := by decide
    have last := digits _ (Nat.mod_lt m (by decide)) _ (Nat.mod_lt n (by decide))
    rw [fixed, fixed, append_lt_append_iff (by simp), ih before before', fixed_inj before before']
    simp only [List.cons_lt_cons_iff, List.not_lt_nil, and_false, or_false, last]
    omega

theorem fixed_append_lt_iff {width m n : Nat} (small : m < 10 ^ width) (small' : n < 10 ^ width)
    (cs ds : List Char) : fixed width m ++ cs < fixed width n ++ ds ↔ m < n ∨ m = n ∧ cs < ds := by
  rw [append_lt_append_iff (by simp), fixed_lt_iff small small', fixed_inj small small']

end Timestamp

/-! ### Reading numbers -/

open Timestamp

theorem isSome_digit? (c : Char) : (digit? c).isSome = c.isDigit := by
  rw [digit?_eq]
  split <;> simp_all

/-- A number is read up to what is not a digit. -/
theorem takeNumber_fixed {least most width n : Nat} (at_least : least ≤ width) (at_most : width ≤ most)
    (small : n < 10 ^ width) {rest : List Char} (ends : rest.head?.any Char.isDigit = false) :
    takeNumber least most (fixed width n ++ rest) = some (n, width, rest) := by
  have taken : ((fixed width n ++ rest).take most).takeWhile (fun c => (digit? c).isSome) = fixed width n := by
    have digits : ∀ c ∈ fixed width n, (digit? c).isSome := fun c mem => by
      rw [isSome_digit?, isDigit_of_mem_fixed mem]
    -- all digits of the number are taken, and of what follows, none
    have none : (rest.take (most - width)).takeWhile (fun c => (digit? c).isSome) = [] := by
      cases rest with
      | nil => simp
      | cons c rest =>
        cases most - width with
        | zero => rfl
        | succ k => exact List.takeWhile_cons_of_neg (by simpa [isSome_digit?] using ends)
    rw [List.take_append, length_fixed, List.take_of_length_le (by simpa), List.takeWhile_append_of_pos digits, none,
      List.append_nil]
  rw [takeNumber, taken]
  simp [foldl_fixed small, at_least]

theorem bind_takeNumber {β : Type} {width n : Nat} (small : n < 10 ^ width) {rest : List Char}
    (ends : rest.head?.any Char.isDigit = false) (next : Nat × Nat × List Char → Option β) :
    (takeNumber width width (fixed width n ++ rest)).bind next = next (n, width, rest) := by
  rw [takeNumber_fixed le_rfl le_rfl small ends, Option.bind_some]

theorem bind_takeChar {β : Type} {c : Char} {rest : List Char} (next : List Char → Option β) :
    (takeChar c (c :: rest)).bind next = next rest := by
  rw [takeChar, if_pos rfl, Option.bind_some]

end Folio.Time
