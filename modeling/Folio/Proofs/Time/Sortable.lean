import Folio.Proofs.Time.Civil
import Folio.Proofs.Time.Width
import Folio.Sqlite.Stored
import Folio.ValueType

/-!
# Folio.Proofs.Time.Sortable

The text in which a timestamp is stored has the order of the timestamp, and the timestamp is read back from it, in
the years from 0 to 9999.

Every number in such a text has all digits of its width, so texts are in order if the numbers are, from the first
to the last: the date, the time of day and the fraction of the second.
-/

namespace Folio.Time

open Folio.Number (digit?)
open Folio.Text (isBlank)

namespace Timestamp

/-- The order of moments. A leap second comes after the second that it is counted with. -/
def Before (t u : Timestamp) : Prop :=
  t.seconds < u.seconds ∨ t.seconds = u.seconds ∧ t.nanos < u.nanos

/-- If it is a leap second, it is at the end of a minute, as all of universal time are. Texts name no other
moments (`isRegular_of_read`), and one that were any would be written as the second after it
(`exists_isRegular`). -/
def IsRegular (t : Timestamp) : Prop :=
  1000000000 ≤ t.nanos → t.seconds % 60 = 59

/-- Its year is written with four digits. -/
structure IsCommon (t : Timestamp) : Prop where
  nonneg : 0 ≤ t.date.year
  le : t.date.year ≤ 9999

variable {t u : Timestamp}

/-! ### Regular moments -/

theorem takeNumber_lt {least most n count : Nat} {cs rest : List Char}
    (taken : takeNumber least most cs = some (n, count, rest)) : count ≤ most ∧ n < 10 ^ count := by
  have value (ds : List Char) (m : Nat) :
      ds.foldl (fun n c => n * 10 + (digit? c).getD 0) m < (m + 1) * 10 ^ ds.length := by
    induction ds generalizing m with
    | nil => simp
    | cons d ds ih =>
      have digit : (digit? d).getD 0 ≤ 9 := by
        unfold digit?
        split
        next between =>
          have last : d.toNat ≤ '9'.toNat := between.2
          exact Nat.sub_le_sub_right last _
        next => exact Nat.zero_le 9
      calc ds.foldl (fun n c => n * 10 + (digit? c).getD 0) (m * 10 + (digit? d).getD 0)
        _ < (m * 10 + (digit? d).getD 0 + 1) * 10 ^ ds.length := ih _
        _ ≤ (m + 1) * 10 * 10 ^ ds.length := Nat.mul_le_mul_right _ (by omega)
        _ = (m + 1) * 10 ^ (ds.length + 1) := by rw [pow_succ]; ring
  rw [takeNumber] at taken
  split at taken
  · cases taken
  · cases taken
    exact ⟨(List.takeWhile_sublist _).length_le.trans (List.length_take_le _ _), by simpa using value _ 0⟩

/-- What all results have that follow from a first one. -/
theorem of_bind {α β : Type} {P : β → Prop} {x : Option α} {next : α → Option β}
    (each : ∀ a, x = some a → ∀ b, next a = some b → P b) : ∀ b, x.bind next = some b → P b := by
  intro b result
  obtain ⟨a, first, rest⟩ := Option.bind_eq_some_iff.mp result
  exact each a first b rest

/-- The nanoseconds that are read are less than a second. -/
theorem takeFraction_lt (cs : List Char) : ∀ part, takeFraction cs = some part → part.1 < 10 ^ 9 := by
  unfold takeFraction
  split
  · refine of_bind fun ⟨n, count, rest⟩ digits part known => ?_
    cases known
    obtain ⟨le, lt⟩ := takeNumber_lt digits
    calc n * 10 ^ (9 - count)
      _ < 10 ^ count * 10 ^ (9 - count) := Nat.mul_lt_mul_of_pos_right lt (by positivity)
      _ = 10 ^ 9 := by rw [← pow_add, Nat.add_sub_cancel' le]
  · intro part known
    cases known
    exact Nat.pow_pos (by decide)

/-- Zones are whole minutes apart. -/
theorem takeZone_dvd (cs : List Char) : ∀ part, takeZone cs = some part → 60 ∣ part.1 := by
  unfold takeZone
  split
  · exact nofun
  · split
    · intro part known
      cases known
      exact dvd_zero _
    · split
      · refine of_bind fun hours _ => of_bind fun _ _ => of_bind fun minutes _ part known => ?_
        have known := (Option.ite_none_left_eq_some.mp known).2
        cases known
        dsimp only
        split <;> omega
      · exact nofun

theorem isRegular_of_toTimestamp {f : Fields} {east : Int} (known : f.toTimestamp east = some t)
    (small : f.nanos < 10 ^ 9) (minutes : 60 ∣ east) : t.IsRegular := by
  rw [Fields.toTimestamp] at known
  split at known
  next valid =>
    simp only [of?, Option.dite_none_right_eq_some, Option.some.injEq] at known
    obtain ⟨lt, rfl⟩ := known
    intro leap
    simp only [Bool.and_eq_true, decide_eq_true_eq] at valid
    dsimp only at leap ⊢
    omega
  next => cases known

theorem isRegular_of_readStrict (cs : List Char) : ∀ t, readStrict cs = some t → t.IsRegular := by
  refine of_bind fun _ _ => of_bind fun _ _ => of_bind fun _ _ => of_bind fun _ _ => of_bind fun _ _ =>
    of_bind fun _ _ => of_bind fun _ _ => of_bind fun _ _ => of_bind fun _ _ => of_bind fun _ _ =>
    of_bind fun _ _ => of_bind fun _ fraction => of_bind fun _ zone t known => ?_
  have known := (Option.ite_none_right_eq_some.mp known).2
  exact isRegular_of_toTimestamp known (takeFraction_lt _ _ fraction) (takeZone_dvd _ _ zone)

theorem isRegular_of_readLoose (separator : List Char → Option (List Char)) (cs : List Char) :
    ∀ t, readLoose separator cs = some t → t.IsRegular := by
  refine of_bind fun _ _ => of_bind fun _ _ => of_bind fun _ _ => of_bind fun _ _ => of_bind fun _ _ =>
    of_bind fun _ _ => of_bind fun _ _ => of_bind fun _ _ => of_bind fun _ _ => of_bind fun _ _ =>
    of_bind fun _ _ => of_bind fun _ fraction t known => ?_
  have known := (Option.ite_none_right_eq_some.mp known).2
  exact isRegular_of_toTimestamp known (takeFraction_lt _ _ fraction) (by decide)

/-- The moments that texts name, in any layout. -/
theorem isRegular_of_read {s : String} (read : Timestamp.read s = some t) : t.IsRegular := by
  rw [Timestamp.read, Option.or_eq_some_iff, Option.or_eq_some_iff] at read
  rcases read with strict | ⟨-, spaced | ⟨-, lettered⟩⟩
  · exact isRegular_of_readStrict _ t strict
  · exact isRegular_of_readLoose _ _ t spaced
  · exact isRegular_of_readLoose _ _ t lettered

/-- A leap second elsewhere than at the end of a minute has the texts of the second after it. -/
theorem exists_isRegular (t : Timestamp) : ∃ u : Timestamp, u.IsRegular ∧
    ∀ style zone, u.render style zone = t.render style zone := by
  by_cases regular : t.IsRegular
  · exact ⟨t, regular, fun _ _ => rfl⟩
  · have small := t.nanos_lt
    unfold IsRegular at regular
    refine ⟨⟨t.seconds + 1, t.nanos - 1000000000, by omega⟩, ?_, fun style zone => ?_⟩
    · intro leap
      dsimp only at leap
      omega
    · -- the minute does not end between the two
      have day : (t.seconds + 1) / 86400 = t.seconds / 86400 := by omega
      have second : ((t.seconds + 1) % 86400).toNat = (t.seconds % 86400).toNat + 1 := by omega
      have hour : ((t.seconds % 86400).toNat + 1) / 3600 = (t.seconds % 86400).toNat / 3600 := by omega
      have minute : ((t.seconds % 86400).toNat + 1) / 60 = (t.seconds % 86400).toNat / 60 := by omega
      have last : ((t.seconds % 86400).toNat + 1) % 60 + (t.nanos - 1000000000) / 1000000000 =
          (t.seconds % 86400).toNat % 60 + t.nanos / 1000000000 := by omega
      have fraction : (t.nanos - 1000000000) % 1000000000 = t.nanos % 1000000000 := by omega
      simp only [render, date, secondOfDay, day, second, hour, minute, last, fraction]

/-! ### The numbers of a text -/

/-- The second of the minute, 60 for a leap second. -/
def second (t : Timestamp) : Nat :=
  t.secondOfDay % 60 + t.nanos / 1000000000

/-- The fraction of the second. -/
def fraction (t : Timestamp) : Nat :=
  t.nanos % 1000000000

/-- Date and time of day to the second, and what follows. -/
def laidOut (t : Timestamp) (rest : List Char) : List Char :=
  fixed 4 t.date.year.toNat ++ '-' :: (fixed 2 t.date.month ++ '-' :: (fixed 2 t.date.day ++ 'T' ::
    (fixed 2 (t.secondOfDay / 3600) ++ ':' :: (fixed 2 (t.secondOfDay / 60 % 60) ++ ':' ::
      (fixed 2 t.second ++ rest)))))

theorem secondOfDay_lt (t : Timestamp) : t.secondOfDay < 86400 := by
  unfold secondOfDay
  omega

theorem date_spec (t : Timestamp) : t.date.isValid ∧ t.date.toDays = t.seconds / 86400 :=
  Civil.ofDays_spec _

theorem month_lt (t : Timestamp) : t.date.month < 10 ^ 2 := by
  have month := Civil.month_of_isValid t.date_spec.1
  omega

theorem day_lt (t : Timestamp) : t.date.day < 10 ^ 2 := by
  have day := Civil.day_le_of_isValid t.date_spec.1
  split at day
  · split at day <;> omega
  · omega

theorem second_le (t : Timestamp) : t.second ≤ 60 := by
  have small := t.nanos_lt
  unfold second
  omega

theorem fraction_lt (t : Timestamp) : t.fraction < 10 ^ 9 := by
  unfold fraction
  omega

theorem IsCommon.year_lt (common : t.IsCommon) : t.date.year.toNat < 10 ^ 4 := by
  have le := common.le
  omega

theorem IsCommon.render_eq (common : t.IsCommon) (style : Fraction) (zone : String) :
    t.render style zone = String.ofList (t.laidOut (style.render t.fraction ++ zone.toList)) := by
  have year : yearText t.date.year = fixed 4 t.date.year.toNat := by
    rw [yearText, if_pos (by simp [common.nonneg, common.le])]
    exact padded_eq_fixed common.year_lt
  have two {n : Nat} (small : n < 10 ^ 2) : padded 2 n = fixed 2 n := padded_eq_fixed small
  have secondOfDay := t.secondOfDay_lt
  have second := t.second_le
  rw [Timestamp.second] at second
  simp only [render, year, laidOut, Timestamp.second, fraction]
  rw [two t.month_lt, two t.day_lt, two (by omega), two (by omega), two (by omega)]
  simp only [List.append_assoc, List.cons_append]

/-! ### Order -/

/-- Texts are in the order of the dates, then of the times of day, then of what follows. -/
theorem IsCommon.laidOut_lt_iff (common : t.IsCommon) (common' : u.IsCommon) (rest rest' : List Char) :
    t.laidOut rest < u.laidOut rest' ↔ t.date.Before u.date ∨ t.date = u.date ∧
      (t.secondOfDay / 60 < u.secondOfDay / 60 ∨ t.secondOfDay / 60 = u.secondOfDay / 60 ∧
        (t.second < u.second ∨ t.second = u.second ∧ rest < rest')) := by
  have year := common.nonneg
  have year' := common'.nonneg
  have time := t.secondOfDay_lt
  have time' := u.secondOfDay_lt
  have second := t.second_le
  have second' := u.second_le
  have alike (c : Char) (cs ds : List Char) : c :: cs < c :: ds ↔ cs < ds := by simp
  -- a field decides unless it is the same on both sides; then the next one does
  rw [laidOut, laidOut, fixed_append_lt_iff common.year_lt common'.year_lt, alike,
    fixed_append_lt_iff t.month_lt u.month_lt, alike,
    fixed_append_lt_iff t.day_lt u.day_lt, alike, fixed_append_lt_iff (by omega) (by omega), alike,
    fixed_append_lt_iff (by omega) (by omega), alike, fixed_append_lt_iff (by omega) (by omega)]
  have date : t.date = u.date ↔
      t.date.year = u.date.year ∧ t.date.month = u.date.month ∧ t.date.day = u.date.day := by
    rw [Civil.mk.injEq]
  have years : t.date.year.toNat = u.date.year.toNat ↔ t.date.year = u.date.year := by omega
  have minutes : t.secondOfDay / 60 < u.secondOfDay / 60 ↔ t.secondOfDay / 3600 < u.secondOfDay / 3600 ∨
      t.secondOfDay / 3600 = u.secondOfDay / 3600 ∧ t.secondOfDay / 60 % 60 < u.secondOfDay / 60 % 60 := by omega
  have minute : t.secondOfDay / 60 = u.secondOfDay / 60 ↔ t.secondOfDay / 3600 = u.secondOfDay / 3600 ∧
      t.secondOfDay / 60 % 60 = u.secondOfDay / 60 % 60 := by omega
  have earlier : t.date.year.toNat < u.date.year.toNat ↔ t.date.year < u.date.year := by omega
  simp only [earlier, years, Civil.Before, date, minutes, minute, and_or_left, and_assoc, or_assoc]

/-- Moments are in the order of their parts. -/
theorem before_iff (regular : t.IsRegular) (regular' : u.IsRegular) :
    t.Before u ↔ t.date.Before u.date ∨ t.date = u.date ∧
      (t.secondOfDay / 60 < u.secondOfDay / 60 ∨ t.secondOfDay / 60 = u.secondOfDay / 60 ∧
        (t.second < u.second ∨ t.second = u.second ∧ t.fraction < u.fraction)) := by
  have small := t.nanos_lt
  have small' := u.nanos_lt
  -- a leap second within a minute would come after the second that follows it
  unfold IsRegular at regular regular'
  rw [date, date, Civil.ofDays_before_iff, Civil.ofDays_inj]
  unfold Before second fraction secondOfDay
  omega

/-- Texts with all digits of the fraction are in the order of the moments. -/
theorem IsCommon.laidOut_lt (common : t.IsCommon) (common' : u.IsCommon) (regular : t.IsRegular)
    (regular' : u.IsRegular) (zone : List Char) :
    t.laidOut (Fraction.nine.render t.fraction ++ zone) < u.laidOut (Fraction.nine.render u.fraction ++ zone) ↔
      t.Before u := by
  have fractions : Fraction.nine.render t.fraction ++ zone < Fraction.nine.render u.fraction ++ zone ↔
      t.fraction < u.fraction := by
    rw [Fraction.render, Fraction.render, padded_eq_fixed t.fraction_lt, padded_eq_fixed u.fraction_lt]
    simp [fixed_append_lt_iff t.fraction_lt u.fraction_lt]
  rw [common.laidOut_lt_iff common', fractions, before_iff regular regular']

/-! ### Reading -/

section Reading

variable {c : Char} {rest : List Char}

theorem takeFraction_fixed {width n : Nat} (at_least : 1 ≤ width) (at_most : width ≤ 9) (small : n < 10 ^ width)
    (ends : c.isDigit = false) :
    takeFraction ('.' :: (fixed width n ++ c :: rest)) = some (n * 10 ^ (9 - width), c :: rest) := by
  have stops : (c :: rest).dropWhile (fun c => (digit? c).isSome) = c :: rest :=
    List.dropWhile_cons_of_neg (by simp [isSome_digit?, ends])
  rw [takeFraction, takeNumber_fixed at_least at_most small (by simpa using ends)]
  simp only [Option.bind_eq_bind, Option.bind_some, stops]

theorem takeFraction_render (style : Fraction) {nanos : Nat} (small : nanos < 10 ^ 9) (ends : c.isDigit = false)
    (point : c ≠ '.') : takeFraction (style.render nanos ++ c :: rest) = some (nanos, c :: rest) := by
  have nine : takeFraction ('.' :: padded 9 nanos ++ c :: rest) = some (nanos, c :: rest) := by
    rw [padded_eq_fixed small, List.cons_append, takeFraction_fixed (by decide) (by decide) small ends,
      Nat.sub_self, pow_zero, Nat.mul_one]
  cases style with
  | nine => exact nine
  | fewest =>
    rw [Fraction.render]
    split_ifs with zero thousands hundreds
    · rw [zero, List.nil_append, takeFraction]
      simp [point]
    · have fewer : nanos / 1000000 < 10 ^ 3 := by omega
      have scaled : nanos / 1000000 * 10 ^ (9 - 3) = nanos := by omega
      rw [padded_eq_fixed fewer, List.cons_append, takeFraction_fixed (by decide) (by decide) fewer ends, scaled]
    · have fewer : nanos / 1000 < 10 ^ 6 := by omega
      have scaled : nanos / 1000 * 10 ^ (9 - 6) = nanos := by omega
      rw [padded_eq_fixed fewer, List.cons_append, takeFraction_fixed (by decide) (by decide) fewer ends, scaled]
    · exact nine

/-- The fields are read back, with any fraction and zone after them. -/
theorem IsCommon.readStrict_laidOut (common : t.IsCommon) (style : Fraction) {east : Int}
    (zone : takeZone (c :: rest) = some (east, [])) (ends : c.isDigit = false) (point : c ≠ '.') :
    readStrict (t.laidOut (style.render t.fraction ++ c :: rest)) =
      Fields.toTimestamp ⟨t.date.year, t.date.month, t.date.day, t.secondOfDay / 3600, t.secondOfDay / 60 % 60,
        t.second, t.fraction⟩ east := by
  have year := Int.toNat_of_nonneg common.nonneg
  have time := t.secondOfDay_lt
  have second := t.second_le
  have follows : (style.render t.fraction ++ c :: rest).head?.any Char.isDigit = false := by
    cases style <;> simp only [Fraction.render] <;> try split_ifs
    all_goals simp [ends]
  have letter {cs : List Char} (next : List Char → Option Timestamp) :
      ((takeChar 'T' ('T' :: cs)).or ((takeChar 't' ('T' :: cs)).or (takeChar ' ' ('T' :: cs)))).bind next =
        next cs := by
    rw [takeChar, if_pos rfl, Option.some_or, Option.bind_some]
  rw [readStrict, laidOut]
  -- field by field, each with the character after it
  refine (bind_takeNumber common.year_lt rfl _).trans <| (bind_takeChar _).trans ?_
  refine (bind_takeNumber t.month_lt rfl _).trans <| (bind_takeChar _).trans ?_
  refine (bind_takeNumber t.day_lt rfl _).trans <| (letter _).trans ?_
  refine (bind_takeNumber (by omega) rfl _).trans <| (bind_takeChar _).trans ?_
  refine (bind_takeNumber (by omega) rfl _).trans <| (bind_takeChar _).trans ?_
  refine (bind_takeNumber (by omega) follows _).trans ?_
  simp only [takeFraction_render style t.fraction_lt ends point, zone, Option.bind_eq_bind, Option.bind_some,
    List.isEmpty_nil, if_true, year]

/-- The fields of a moment name it. -/
theorem IsCommon.toTimestamp (common : t.IsCommon) (regular : t.IsRegular) :
    Fields.toTimestamp ⟨t.date.year, t.date.month, t.date.day, t.secondOfDay / 3600, t.secondOfDay / 60 % 60,
      t.second, t.fraction⟩ 0 = some t := by
  have valid : Civil.isValid ⟨t.date.year, t.date.month, t.date.day⟩ := t.date_spec.1
  have days : Civil.toDays ⟨t.date.year, t.date.month, t.date.day⟩ = t.seconds / 86400 := t.date_spec.2
  have nonneg := common.nonneg
  have le := common.le
  have second := t.second_le
  have time := t.secondOfDay_lt
  rw [Fields.toTimestamp, if_pos (by simp [valid]; omega)]
  simp only [days]
  have small := t.nanos_lt
  unfold IsRegular at regular
  -- the second that a leap second is counted with is the one before it
  have sum : t.seconds / 86400 * 86400 + ((t.secondOfDay / 3600 * 3600 + t.secondOfDay / 60 % 60 * 60 + t.second -
      t.second / 60 : Nat) : Int) - 0 = t.seconds := by
    unfold Timestamp.second secondOfDay
    omega
  have nanos : t.fraction + t.second / 60 * 1000000000 = t.nanos := by
    unfold fraction Timestamp.second secondOfDay
    omega
  rw [sum, nanos, of?, dif_pos small]

end Reading

/-! ### The texts -/

/-- A character of ASCII that is no blank. -/
def IsPlain (c : Char) : Prop :=
  c.toNat < 128 ∧ isBlank c = false

theorem isPlain_of_isDigit {c : Char} (digit : c.isDigit) : IsPlain c := by
  simp only [Char.isDigit, Bool.and_eq_true, decide_eq_true_eq, ge_iff_le, UInt32.le_iff_toNat_le] at digit
  have value : 48 ≤ c.toNat ∧ c.toNat ≤ 57 := digit
  refine ⟨by omega, ?_⟩
  simp only [isBlank, Bool.or_eq_false_iff, Bool.and_eq_false_iff, decide_eq_false_iff_not, beq_eq_false_iff_ne]
  omega

/-- The characters between numbers, and those of a zone. -/
theorem isPlain_mark : ∀ c ∈ ['-', 'T', ':', '.', 'Z', '+', '0'], IsPlain c := by
  simp [IsPlain, isBlank]

/-- The zone of universal time, in either of its forms. -/
theorem isPlain_zone {zone : String} (known : zone = "Z" ∨ zone = "+00:00") : ∀ c ∈ zone.toList, IsPlain c := by
  have marks : zone.toList ⊆ ['-', 'T', ':', '.', 'Z', '+', '0'] := by
    rcases known with rfl | rfl <;> decide +kernel
  exact fun c mem => isPlain_mark c (marks mem)

theorem isPlain_fixed {width n : Nat} {c : Char} (mem : c ∈ fixed width n) : IsPlain c :=
  isPlain_of_isDigit (isDigit_of_mem_fixed mem)

theorem isPlain_fraction {style : Fraction} {nanos : Nat} (small : nanos < 10 ^ 9) :
    ∀ c ∈ style.render nanos, IsPlain c := by
  have places {width n : Nat} (small : n < 10 ^ (width + 1)) : ∀ c ∈ '.' :: padded (width + 1) n, IsPlain c := by
    rw [padded_eq_fixed small]
    exact List.forall_mem_cons.mpr ⟨isPlain_mark _ (by decide), fun c => isPlain_fixed⟩
  cases style with
  | nine => exact places small
  | fewest =>
    rw [Fraction.render]
    split_ifs
    · simp
    · exact places (by omega)
    · exact places (by omega)
    · exact places small

theorem isPlain_laidOut {rest : List Char} (plain : ∀ c ∈ rest, IsPlain c) : ∀ c ∈ t.laidOut rest, IsPlain c := by
  have digits (width n : Nat) : ∀ c ∈ fixed width n, IsPlain c := fun c => isPlain_fixed
  have dash : IsPlain '-' := isPlain_mark _ (by decide)
  have letter : IsPlain 'T' := isPlain_mark _ (by decide)
  have colon : IsPlain ':' := isPlain_mark _ (by decide)
  simp only [laidOut, List.forall_mem_append, List.forall_mem_cons]
  exact ⟨digits _ _, dash, digits _ _, dash, digits _ _, letter, digits _ _, colon, digits _ _, colon, digits _ _,
    plain⟩

/-- The text of a moment. -/
theorem isPlain_text (t : Timestamp) (style : Fraction) {zone : String} (known : zone = "Z" ∨ zone = "+00:00") :
    ∀ c ∈ t.laidOut (style.render t.fraction ++ zone.toList), IsPlain c :=
  isPlain_laidOut (List.forall_mem_append.mpr ⟨isPlain_fraction t.fraction_lt, isPlain_zone known⟩)

theorem trim_of_isPlain {cs : List Char} (plain : ∀ c ∈ cs, IsPlain c) :
    Text.trim (String.ofList cs) = String.ofList cs := by
  have none (cs : List Char) (plain : ∀ c ∈ cs, IsPlain c) : cs.dropWhile isBlank = cs := by
    cases cs with
    | nil => rfl
    | cons c cs => exact List.dropWhile_cons_of_neg (by simp [(plain c (by simp)).2])
  rw [Text.trim, String.toList_ofList, Text.trimChars, none _ plain, none _ (by simpa using plain),
    List.reverse_reverse]

/-- A text with the zone of universal time is read as the moment. -/
theorem IsCommon.cast_render (common : t.IsCommon) (regular : t.IsRegular) (style : Fraction) {zone : String}
    (known : zone = "Z" ∨ zone = "+00:00") :
    ValueType.timestamp.cast (.text (t.render style zone)) = .ok (.timestamp t) := by
  have strict : readStrict (t.laidOut (style.render t.fraction ++ zone.toList)) = some t := by
    rcases known with rfl | rfl
    · exact (common.readStrict_laidOut style (c := 'Z') rfl rfl (by decide)).trans (common.toTimestamp regular)
    · exact (common.readStrict_laidOut style (c := '+') rfl rfl (by decide)).trans (common.toTimestamp regular)
  have read : readTimestamp (t.render style zone) = .ok t := by
    rw [readTimestamp, common.render_eq, trim_of_isPlain (t.isPlain_text style known), Timestamp.read,
      String.toList_ofList, strict, Option.some_or]
  have cast : ValueType.timestamp.cast (.text (t.render style zone)) =
      (readTimestamp (t.render style zone)).map .timestamp := rfl
  rw [cast, read, Except.map]

open Sqlite (Stored)

/-- Half a second into the leap second at the end of 2016. -/
def leapSecond : Timestamp := ⟨1483228799, 1500000000, by decide⟩

/-- The first second of 2017 after a quarter of it. -/
def newYear : Timestamp := ⟨1483228800, 250000000, by decide⟩

example : leapSecond.sortable = "2016-12-31T23:59:60.500000000Z" := by decide +kernel

end Timestamp

end Folio.Time
