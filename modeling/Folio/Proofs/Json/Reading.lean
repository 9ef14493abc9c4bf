import Folio.Json.Reader
import Folio.Proofs.Number.Digits

/-!
# Folio.Proofs.Json.Reading

The reader on texts that were rendered.

* `readText_escaped`: strings are read back, whatever characters they have.
* `readMagnitude_digits`: so are whole numbers of at most 64 bits.
* `read_array`: so are arrays of scalars.
* `read_nested`: of an array with arrays among its items, whatever is read has an array among its items.
-/

namespace Folio.Json

open Folio.Number (digit? digit?_eq head_digits_ne_zero isDigit_of_mem_digits le_ofDigitChars)

/-! ### Strings -/

theorem hexFour_control : ∀ n < 0x20,
    hexFour n = ['0', '0', Nat.digitChar (n / 16), Nat.digitChar (n % 16)] ∧
      hexFour? '0' '0' (Nat.digitChar (n / 16)) (Nat.digitChar (n % 16)) = some n := by
  decide

theorem readText_control {n : Nat} (control : n < 0x20) (seen rest : List Char) :
    readText seen ('\\' :: 'u' :: (hexFour n ++ rest)) = readText (Char.ofNat n :: seen) rest := by
  obtain ⟨digits, read⟩ := hexFour_control n control
  simp only [digits, List.cons_append, List.nil_append, readText, read]
  rw [if_pos (.inl (by omega))]

/-- A character is read back from its escape. -/
theorem readText_escapeChar (seen : List Char) (c : Char) (rest : List Char) :
    readText seen (escapeChar c ++ rest) = readText (c :: seen) rest := by
  unfold escapeChar
  split
  case h_8 quote backslash _ _ _ _ _ =>
    split
    next control =>
      have read := readText_control control seen rest
      rwa [Char.ofNat_toNat] at read
    next printable =>
      have plain : c ≠ '\\' := backslash
      rw [List.singleton_append, readText]
      · simp [printable, plain]
      · exact quote
      · rintro a b c d rest' same
        exact absurd same plain
      · rintro e rest' same
        exact absurd same plain
  all_goals rfl

theorem readText_escaped (seen cs rest : List Char) :
    readText seen (cs.flatMap escapeChar ++ '"' :: rest) = some (String.ofList (seen.reverse ++ cs), rest) := by
  induction cs generalizing seen with
  | nil => simp [readText]
  | cons c cs ih =>
    rw [List.flatMap_cons, List.append_assoc, readText_escapeChar, ih]
    simp

/-! ### Whole numbers -/

/-- The digits of a number that has 64 bits are all kept. -/
theorem takeDigits_digits {value : Nat} (kept count : Nat) {ds rest : List Char}
    (digits : ∀ c ∈ ds, c.isDigit = true) (small : Nat.ofDigitChars 10 ds value < 2 ^ 64)
    (ends : rest.head?.bind digit? = none) :
    takeDigits value kept false count (ds ++ rest) =
      ⟨Nat.ofDigitChars 10 ds value, kept + ds.length, false, count + ds.length, rest⟩ := by
  induction ds generalizing value kept count with
  | nil =>
    cases rest with
    | nil => rfl
    | cons c rest =>
      have none : digit? c = none := ends
      rw [List.nil_append, takeDigits, none]
      rfl
  | cons c ds ih =>
    have digit : c.isDigit = true := digits c List.mem_cons_self
    rw [Nat.ofDigitChars_cons] at small ⊢
    have so_far := lt_of_le_of_lt (le_ofDigitChars _ ds) small
    rw [List.cons_append, takeDigits, digit?_eq, if_pos digit, mul_comm value 10]
    dsimp only
    rw [if_neg (by simpa using so_far), ih _ _ (fun d mem => digits d (List.mem_cons_of_mem c mem)) small,
      List.length_cons]
    simp only [Nat.add_assoc, Nat.add_comm 1]

/-- Numbers of at most 64 bits are read back. -/
theorem readMagnitude_digits (negative : Bool) {n : Nat} (small : n < 2 ^ 64)
    (signed : negative = true → 0 < n ∧ n ≤ 2 ^ 63) {c : Char} (ends : c = ',' ∨ c = ']')
    (rest : List Char) :
    readMagnitude negative (Nat.toDigits 10 n ++ c :: rest) =
      some (.whole (Number.signed negative n), c :: rest) := by
  have stop : ((c :: rest).head?.bind digit?) = none := by
    rcases ends with rfl | rfl <;> rfl
  have alone : takeExponent (c :: rest) = some (none, c :: rest) := by
    rcases ends with rfl | rfl <;> rfl
  rcases Nat.eq_zero_or_pos n with rfl | positive
  · have unsigned : negative = false := Bool.eq_false_iff.mpr fun h => absurd (signed h).1 (lt_irrefl 0)
    subst unsigned
    rcases ends with rfl | rfl <;> rfl
  · obtain ⟨first, others, digits, nonzero⟩ := head_digits_ne_zero positive
    have run := takeDigits_digits 0 0 (fun d => isDigit_of_mem_digits)
      (Nat.ofDigitChars_ten_toDigits.trans_lt small) stop
    rw [Nat.ofDigitChars_ten_toDigits] at run
    rw [digits, List.cons_append] at run ⊢
    simp only [readMagnitude]
    split
    next same => exact absurd (List.cons.inj same).1 nonzero
    next =>
      simp only [run]
      rw [if_neg (by simp), if_neg (by simp [nonzero])]
      split
      next same =>
        obtain rfl := (List.cons.inj same).1
        rcases ends with ends | ends <;> cases ends
      next =>
        simp only [alone, Option.bind_eq_bind, Option.bind_some, Bool.false_eq_true, if_false]
        cases negative with
        | false => rfl
        | true =>
          rw [if_pos rfl, if_neg (by simpa using ⟨positive.ne', (signed rfl).2⟩)]
          rfl

/-! ### Scalars -/

/-- Scalars that have one text and are read back from it: whole numbers have at most 64 bits. -/
def IsScalar : Json → Prop
  | .null | .bool _ | .text _ => True
  | .whole n => -2 ^ 63 ≤ n ∧ n < 2 ^ 64
  | _ => False

variable {j : Json} {js : List Json} {c : Char} {rest : List Char} {depth fuel : Nat}

theorem ne_of_isDigit {d e : Char} (digit : d.isDigit = true) (other : e.isDigit = false) : d ≠ e := by
  rintro rfl
  exact Bool.false_ne_true (other.symm.trans digit)

/-- Digits are read as a number. -/
theorem readValue_digits (n depth fuel : Nat) (rest : List Char) :
    readValue depth (Nat.toDigits 10 n ++ rest) (fuel + 1) =
      readMagnitude false (Nat.toDigits 10 n ++ rest) := by
  obtain ⟨d, ds, digits⟩ := List.exists_cons_of_ne_nil (Nat.toDigits_ne_nil (n := n) (b := 10))
  have digit : d.isDigit = true := isDigit_of_mem_digits (digits ▸ List.mem_cons_self)
  have apart {e : Char} (other : e.isDigit = false) : d ≠ e := ne_of_isDigit digit other
  have solid : skipSpace (d :: (ds ++ rest)) = d :: (ds ++ rest) := by
    simp [skipSpace, isSpace, apart]
  rw [digits, List.cons_append, readValue, solid]
  split
  case h_8 => rfl
  -- the others begin with characters that are no digits
  all_goals
    next same => exact absurd (List.cons.inj same).1 (apart rfl)

theorem chars_natCast (n : Nat) : (whole n).chars = Nat.toDigits 10 n := by
  show n.repr.toList = Nat.toDigits 10 n
  simp

theorem chars_negSucc (n : Nat) : (whole (.negSucc n)).chars = '-' :: Nat.toDigits 10 (n + 1) := by
  show ("-" ++ (n + 1).repr).toList = _
  simp

/-- Scalars are read back. -/
theorem readValue_scalar (scalar : j.IsScalar) (ends : c = ',' ∨ c = ']') (depth fuel : Nat)
    (rest : List Char) :
    readValue depth (j.chars ++ c :: rest) (fuel + 1) = some (j, c :: rest) := by
  cases j with
  | null => rfl
  | bool b => cases b <;> rfl
  | text s =>
    have read := readText_escaped [] s.toList (c :: rest)
    simp only [List.reverse_nil, List.nil_append, String.ofList_toList] at read
    simp [chars, textChars, readValue, skipSpace, isSpace, read]
  | whole n =>
    obtain ⟨least, greatest⟩ := scalar
    cases n with
    | ofNat n =>
      rw [Int.ofNat_eq_natCast] at greatest ⊢
      rw [chars_natCast, readValue_digits, readMagnitude_digits false (by omega) (by simp) ends]
      rfl
    | negSucc n =>
      rw [chars_negSucc]
      exact readMagnitude_digits true (n := n + 1) (by omega) (fun _ => ⟨by omega, by omega⟩) ends rest
  | _ => exact scalar.elim

/-! ### Arrays -/

/-- A scalar or an array. -/
def IsItem (j : Json) : Prop :=
  j.IsScalar ∨ ∃ items, j = .array items

/-- The text of an item begins neither with white space nor with the end of an array. -/
theorem IsItem.chars_eq (item : j.IsItem) :
    ∃ d ds, j.chars = d :: ds ∧ isSpace d = false ∧ d ≠ ']' := by
  rcases item with scalar | ⟨items, rfl⟩
  · cases j with
    | null => exact ⟨_, _, rfl, rfl, nofun⟩
    | bool b => cases b <;> exact ⟨_, _, rfl, rfl, nofun⟩
    | text s => exact ⟨_, _, rfl, rfl, nofun⟩
    | whole n =>
      cases n with
      | ofNat n =>
        obtain ⟨d, ds, digits⟩ := List.exists_cons_of_ne_nil (Nat.toDigits_ne_nil (n := n) (b := 10))
        have digit : d.isDigit = true := isDigit_of_mem_digits (digits ▸ List.mem_cons_self)
        have apart {e : Char} (other : e.isDigit = false) : d ≠ e := ne_of_isDigit digit other
        exact ⟨d, ds, (chars_natCast n).trans digits, by simp [isSpace, apart], apart rfl⟩
      | negSucc n => exact ⟨_, _, chars_negSucc n, rfl, nofun⟩
    | _ => exact scalar.elim
  · exact ⟨_, _, rfl, rfl, nofun⟩

theorem length_le_itemChars (items : ∀ j ∈ js, j.IsItem) : js.length ≤ (itemChars js).length := by
  induction js with
  | nil => exact le_rfl
  | cons j js ih =>
    obtain ⟨d, ds, text, -⟩ := (items j List.mem_cons_self).chars_eq
    cases js with
    | nil => simp [itemChars, text]
    | cons k js =>
      have more := ih fun j mem => items j (List.mem_cons_of_mem _ mem)
      simp only [itemChars, text, List.length_append, List.length_cons] at more ⊢
      omega

theorem readItems_last (scalar : j.IsScalar) :
    readItems depth (itemChars [j] ++ ']' :: rest) (fuel + 2) = some ([j], rest) := by
  rw [itemChars, readItems, readValue_scalar scalar (.inr rfl)]
  rfl

theorem readItems_next {k : Json} (scalar : j.IsScalar) :
    readItems depth (itemChars (j :: k :: js) ++ ']' :: rest) (fuel + 2) =
      (readItems depth (itemChars (k :: js) ++ ']' :: rest) (fuel + 1)).map
        fun (items, rest) => (j :: items, rest) := by
  rw [itemChars, List.append_assoc, List.cons_append, readItems, readValue_scalar scalar (.inl rfl)]
  rfl

/-- Scalars are read back up to the end of their array. -/
theorem readItems_scalars (scalars : ∀ j ∈ js, j.IsScalar) (some : js ≠ []) (enough : js.length < fuel) :
    readItems depth (itemChars js ++ ']' :: rest) fuel = .some (js, rest) := by
  induction js generalizing fuel with
  | nil => exact absurd rfl some
  | cons j js ih =>
    have scalar : j.IsScalar := scalars j List.mem_cons_self
    obtain ⟨fuel, rfl⟩ := Nat.exists_eq_add_of_le' (show 2 ≤ fuel by simp at enough; omega)
    cases js with
    | nil => exact readItems_last scalar
    | cons k js =>
      rw [readItems_next scalar, ih (fun j mem => scalars j (List.mem_cons_of_mem _ mem)) nofun
        (by simp at enough ⊢; omega)]
      rfl

/-- Whatever begins with a bracket is read as an array, if it is read at all. -/
theorem readValue_bracket {cs : List Char} (h : readValue depth ('[' :: cs) fuel = some (j, rest)) :
    ∃ items, j = .array items := by
  cases fuel with
  | zero => cases h
  | succ fuel =>
    have solid : skipSpace ('[' :: cs) = '[' :: cs := rfl
    simp only [readValue, solid] at h
    split at h
    · cases h
    · split at h
      next =>
        cases h
        exact ⟨[], rfl⟩
      next =>
        obtain ⟨⟨items, rest⟩, -, same⟩ := Option.map_eq_some_iff.mp h
        cases same
        exact ⟨items, rfl⟩

/-- Of items that begin with a bracket, if they are read at all, the first is an array. -/
theorem readItems_bracket {cs : List Char} (h : readItems depth ('[' :: cs) fuel = some (js, rest)) :
    ∃ items, .array items ∈ js := by
  cases fuel with
  | zero => cases h
  | succ fuel =>
    rw [readItems] at h
    split at h
    next => cases h
    next j after first =>
      obtain ⟨items, rfl⟩ := readValue_bracket first
      split at h
      next =>
        cases h
        exact ⟨items, List.mem_singleton_self _⟩
      next =>
        obtain ⟨⟨more, rest⟩, -, same⟩ := Option.map_eq_some_iff.mp h
        cases same
        exact ⟨items, List.mem_cons_self⟩
      next => cases h

theorem itemChars_array (items after : List Json) (rest : List Char) :
    ∃ cs, itemChars (.array items :: after) ++ rest = '[' :: cs := by
  cases after <;> exact ⟨_, rfl⟩

/-- With an array among the items, an array is among whatever is read. -/
theorem readItems_nested {before after items result : List Json} {rest' : List Char}
    (scalars : ∀ j ∈ before, j.IsScalar)
    (h : readItems depth (itemChars (before ++ .array items :: after) ++ ']' :: rest) fuel =
      some (result, rest')) :
    ∃ inner, .array inner ∈ result := by
  induction before generalizing fuel result rest' with
  | nil =>
    obtain ⟨cs, text⟩ := itemChars_array items after (']' :: rest)
    rw [List.nil_append, text] at h
    exact readItems_bracket h
  | cons j before ih =>
    have scalar : j.IsScalar := scalars j List.mem_cons_self
    obtain ⟨k, ks, more⟩ := List.exists_cons_of_ne_nil
      (show before ++ .array items :: after ≠ [] by simp)
    match fuel, h with
    | fuel + 2, h =>
      rw [List.cons_append, more, readItems_next scalar, ← more] at h
      obtain ⟨⟨read, rest⟩, inner, same⟩ := Option.map_eq_some_iff.mp h
      cases same
      obtain ⟨inner, mem⟩ := ih (fun j mem => scalars j (List.mem_cons_of_mem _ mem)) inner
      exact ⟨inner, List.mem_cons_of_mem _ mem⟩

theorem readValue_array {d : Char} {cs : List Char} (deep : 1 < depth) (solid : isSpace d = false)
    (apart : d ≠ ']') :
    readValue depth ('[' :: d :: cs) (fuel + 1) =
      (readItems (depth - 1) (d :: cs) fuel).map fun (items, rest) => (.array items, rest) := by
  have opening : skipSpace ('[' :: d :: cs) = '[' :: d :: cs := rfl
  have first : skipSpace (d :: cs) = d :: cs := by simp [skipSpace, solid]
  simp only [readValue, opening, first]
  rw [if_neg (by omega)]
  split
  next same => exact absurd (List.cons.inj same).1 apart
  next => rfl

/-- The text of an array is read as the array of what is read as its items. -/
theorem read_items (item : j.IsItem) (js : List Json) :
    ∃ fuel, (itemChars (j :: js)).length < fuel ∧ read (Json.array (j :: js)).render =
      (readItems 127 (itemChars (j :: js) ++ [']']) fuel).bind fun (items, rest) =>
        if (skipSpace rest).isEmpty then some (.array items) else none := by
  obtain ⟨d, ds, text, solid, apart⟩ := item.chars_eq
  obtain ⟨cs, items⟩ : ∃ cs, itemChars (j :: js) ++ [']'] = d :: cs := by
    cases js <;> exact ⟨_, by rw [itemChars, text]; rfl⟩
  refine ⟨2 * (Json.array (j :: js)).chars.length + 1, by simp [chars]; omega, ?_⟩
  rw [read, readWithin, render, String.toList_ofList, chars, items]
  dsimp only
  rw [readValue_array (by decide) solid apart]
  cases readItems 127 (d :: cs) (2 * ('[' :: d :: cs).length + 1) <;> rfl

/-- Arrays of scalars are read back. -/
theorem read_array (scalars : ∀ j ∈ js, j.IsScalar) : read (Json.array js).render = some (.array js) := by
  cases js with
  | nil => rfl
  | cons j js =>
    obtain ⟨fuel, enough, read⟩ := read_items (.inl (scalars j List.mem_cons_self)) js
    have length := length_le_itemChars fun j mem => .inl (scalars j mem)
    rw [read, readItems_scalars scalars nofun (length.trans_lt enough)]
    rfl

theorem exists_first_array {items : List Json} (each : ∀ j ∈ js, j.IsItem) (mem : .array items ∈ js) :
    ∃ before items after, js = before ++ .array items :: after ∧ ∀ j ∈ before, j.IsScalar := by
  induction js with
  | nil => cases mem
  | cons j js ih =>
    rcases each j List.mem_cons_self with scalar | ⟨own, rfl⟩
    · have later : .array items ∈ js := by
        rcases List.mem_cons.mp mem with rfl | later
        · exact scalar.elim
        · exact later
      obtain ⟨before, items, after, rfl, scalars⟩ :=
        ih (fun j mem => each j (List.mem_cons_of_mem _ mem)) later
      exact ⟨j :: before, items, after, rfl, List.forall_mem_cons.mpr ⟨scalar, scalars⟩⟩
    · exact ⟨[], own, js, rfl, nofun⟩

/-- What is read of an array with an array among its items has an array among its items. -/
theorem read_nested {items : List Json} (each : ∀ j ∈ js, j.IsItem) (mem : .array items ∈ js)
    (h : read (Json.array js).render = some j) :
    ∃ result inner, j = .array result ∧ .array inner ∈ result := by
  obtain ⟨before, items, after, rfl, scalars⟩ := exists_first_array each mem
  obtain ⟨k, ks, first⟩ := List.exists_cons_of_ne_nil
    (show before ++ .array items :: after ≠ [] by simp)
  obtain ⟨fuel, -, text⟩ := read_items (each k (first ▸ List.mem_cons_self)) ks
  rw [first, text, ← first] at h
  obtain ⟨⟨result, rest⟩, inner, same⟩ := Option.bind_eq_some_iff.mp h
  obtain ⟨nested, mem⟩ := readItems_nested scalars inner
  obtain ⟨-, same⟩ := Option.ite_none_right_eq_some.mp same
  cases same
  exact ⟨result, nested, rfl, mem⟩

end Folio.Json
