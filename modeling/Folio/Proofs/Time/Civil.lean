import Mathlib
import Folio.Time.Civil

/-!
# Folio.Proofs.Time.Civil

Day numbers and dates stand for one another, and their orders are the same.

Both conversions count years from March. In `Civil.ofMarch` a date is named by its year counted so and the day of
that year, which is how `Civil.ofDays` finds it.
-/

namespace Folio.Time.Civil

/-! ### Years that begin in March -/

/-- The number of days from the 1st of March of year 0 to that of the year. -/
def marchStart (year : Int) : Int :=
  365 * year + year / 4 - year / 100 + year / 400

/-- The leap day is the last of the year that ends in February. -/
theorem marchStart_succ (year : Int) :
    marchStart (year + 1) = marchStart year + if isLeap (year + 1) then 366 else 365 := by
  simp only [marchStart, isLeap, Bool.and_eq_true, Bool.or_eq_true, beq_iff_eq, bne_iff_ne]
  split <;> omega

/-- The year counted from March in which the date lies. -/
def marchYear (d : Civil) : Int :=
  if d.month ≤ 2 then d.year - 1 else d.year

/-- The number of months from March to that of the date. -/
def marchMonth (d : Civil) : Int :=
  if d.month ≤ 2 then d.month + 9 else d.month - 3

theorem toDays_eq (d : Civil) :
    d.toDays = marchStart d.marchYear + (153 * d.marchMonth + 2) / 5 + d.day - 1 - 719468 := by
  simp only [toDays, marchStart, marchYear, marchMonth]
  generalize (if d.month ≤ 2 then d.year - 1 else d.year) = year
  omega

/-! ### Years within 400 -/

/-- The year within 400 in which a day within their days lies. -/
def yearOfEra (day : Nat) : Nat :=
  (day - day / 1460 + day / 36524 - day / 146096) / 365

/-- The number of days before a year within 400. -/
def eraStart (year : Nat) : Nat :=
  365 * year + year / 4 - year / 100

theorem yearOfEra_mono {e e' : Nat} (le : e ≤ e') (lt : e' < 146097) : yearOfEra e ≤ yearOfEra e' := by
  unfold yearOfEra
  apply Nat.div_le_div_right
  omega

/-- The year changes with its first day. -/
theorem yearOfEra_start :
    ∀ y < 400, yearOfEra (eraStart y) = y ∧ (0 < y → yearOfEra (eraStart y - 1) = y - 1) := by
  decide +kernel

/-- A day lies in its year. -/
theorem yearOfEra_spec {e : Nat} (lt : e < 146097) :
    yearOfEra e < 400 ∧ eraStart (yearOfEra e) ≤ e ∧ (e < eraStart (yearOfEra e + 1) ∨ yearOfEra e = 399) := by
  have bound : yearOfEra e < 400 := by unfold yearOfEra; omega
  have small (y : Nat) (h : y < 400) : eraStart y < 146097 := by unfold eraStart; omega
  refine ⟨bound, ?_, ?_⟩
  · -- a day before the start of its year would lie in an earlier one
    by_contra before
    have ends := (yearOfEra_start _ bound).2
    have start := small _ bound
    have earlier : yearOfEra e ≤ yearOfEra (eraStart (yearOfEra e) - 1) := yearOfEra_mono (by omega) (by omega)
    have first : yearOfEra e ≠ 0 := fun zero => before (by simp [zero, eraStart])
    omega
  · by_cases last : yearOfEra e = 399
    · exact .inr last
    · refine .inl ?_
      by_contra after
      have starts := (yearOfEra_start (yearOfEra e + 1) (by omega)).1
      have later : yearOfEra (eraStart (yearOfEra e + 1)) ≤ yearOfEra e := yearOfEra_mono (by omega) lt
      omega

/-! ### The date of a day -/

/-- The date of a year, month and day, of which year and month are counted from March. -/
def marchDate (year month day : Int) : Civil :=
  let m := if month < 10 then month + 3 else month - 9
  ⟨if m ≤ 2 then year + 1 else year, m.toNat, day.toNat⟩

/-- The date of a day of a year counted from March. -/
def ofMarch (year day : Int) : Civil :=
  marchDate year ((5 * day + 2) / 153) (day - (153 * ((5 * day + 2) / 153) + 2) / 5 + 1)

theorem marchStart_era {y : Nat} (lt : y < 400) (era : Int) :
    marchStart (y + era * 400) = era * 146097 + eraStart y := by
  unfold marchStart eraStart
  omega

/-- A day number is found in a year. -/
theorem exists_ofDays (n : Int) : ∃ year day : Int, 0 ≤ day ∧ day < (if isLeap (year + 1) then 366 else 365) ∧
    n + 719468 = marchStart year + day ∧ ofDays n = ofMarch year day := by
  obtain ⟨e, same⟩ := Int.eq_ofNat_of_zero_le (Int.emod_nonneg (n + 719468) (b := 146097) (by decide))
  have split := Int.mul_ediv_add_emod (n + 719468) 146097
  have lt : e < 146097 := by omega
  obtain ⟨bound, starts, ends⟩ := yearOfEra_spec lt
  have found : (((e : Int) - e / 1460 + e / 36524 - e / 146096) / 365) = yearOfEra e := by
    unfold yearOfEra
    omega
  have date : ofDays n = ofMarch (yearOfEra e + (n + 719468) / 146097 * 400)
      (e - (365 * yearOfEra e + yearOfEra e / 4 - yearOfEra e / 100)) := by
    simp only [ofDays, ofMarch, marchDate, same, found]
  -- from here on the year is known by its first day and that of the next year
  clear found
  generalize yearOfEra e = y at *
  generalize (n + 719468) / 146097 = era at *
  have start := marchStart_era bound era
  have next : era * 146097 + e < marchStart (y + era * 400 + 1) := by
    rcases ends with within | rfl
    · by_cases last : y = 399
      · subst last
        unfold marchStart
        omega
      · have later := marchStart_era (y := y + 1) (by omega) era
        have year : ((y + 1 : Nat) : Int) + era * 400 = y + era * 400 + 1 := by omega
        rw [year] at later
        omega
    · unfold marchStart
      omega
  rw [marchStart_succ] at next
  have day : (365 * y + y / 4 - y / 100 : Int) = eraStart y := by unfold eraStart; omega
  rw [day] at date
  exact ⟨_, _, by omega, by omega, by omega, date⟩

variable {year month day : Int}

theorem marchDate_counted (first : 0 ≤ month) (last : month ≤ 11) :
    (marchDate year month day).marchYear = year ∧ (marchDate year month day).marchMonth = month := by
  by_cases early : month < 10
  · have later : ¬ month + 3 ≤ 2 := by omega
    have later' : ¬ (month + 3).toNat ≤ 2 := by omega
    simp only [marchDate, marchYear, marchMonth, if_pos early, if_neg later, if_neg later', true_and]
    omega
  · have now : month - 9 ≤ 2 := by omega
    have now' : (month - 9).toNat ≤ 2 := by omega
    simp only [marchDate, marchYear, marchMonth, if_neg early, if_pos now, if_pos now']
    omega

/-- A month is as long as it is until the next, and the last of the year as it is until the end. -/
theorem isValid_marchDate (first : 0 ≤ month) (last : month ≤ 11) (day_pos : 1 ≤ day)
    (day_le : day ≤ if month = 11 then (if isLeap (year + 1) then 29 else 28)
      else (153 * (month + 1) + 2) / 5 - (153 * month + 2) / 5) : (marchDate year month day).isValid := by
  interval_cases month
  all_goals simp [marchDate, isValid, daysIn] at day_le ⊢
  all_goals omega

/-- Such a date is one of the calendar, and its number is that of the day. -/
theorem ofMarch_spec (nonneg : 0 ≤ day) (lt : day < (if isLeap (year + 1) then 366 else 365)) :
    (ofMarch year day).isValid ∧ (ofMarch year day).toDays = marchStart year + day - 719468 := by
  have month : 0 ≤ (5 * day + 2) / 153 ∧ (5 * day + 2) / 153 ≤ 11 := by
    split at lt <;> omega
  obtain ⟨sameYear, sameMonth⟩ :
      (ofMarch year day).marchYear = year ∧ (ofMarch year day).marchMonth = (5 * day + 2) / 153 :=
    marchDate_counted month.1 month.2
  constructor
  · refine isValid_marchDate month.1 month.2 (by omega) ?_
    split
    · cases leap : isLeap (year + 1) <;> simp only [leap, Bool.false_eq_true, if_true, if_false] at lt ⊢ <;> omega
    · omega
  · -- the same year and month, and so the same day
    rw [toDays_eq, sameYear, sameMonth, ofMarch, marchDate]
    dsimp only
    omega

/-- Every day number is that of a date of the calendar. -/
theorem ofDays_spec (n : Int) : (ofDays n).isValid ∧ (ofDays n).toDays = n := by
  obtain ⟨year, day, nonneg, lt, number, date⟩ := exists_ofDays n
  obtain ⟨valid, same⟩ := ofMarch_spec nonneg lt
  rw [date, same]
  exact ⟨valid, by omega⟩

/-! ### Order -/

/-- The order of dates by their parts. -/
def Before (d d' : Civil) : Prop :=
  d.year < d'.year ∨ d.year = d'.year ∧ (d.month < d'.month ∨ d.month = d'.month ∧ d.day < d'.day)

variable {d d' : Civil}

theorem month_of_isValid (valid : d.isValid) : 1 ≤ d.month ∧ d.month ≤ 12 ∧ 1 ≤ d.day := by
  simp only [isValid, Bool.and_eq_true, decide_eq_true_eq] at valid
  exact ⟨valid.1.1.1, valid.1.1.2, valid.1.2⟩

/-- No month is longer than until the next. -/
theorem day_le_of_isValid (valid : d.isValid) :
    (d.day : Int) ≤ if d.marchMonth = 11 then (if isLeap d.year then 29 else 28)
      else (153 * (d.marchMonth + 1) + 2) / 5 - (153 * d.marchMonth + 2) / 5 := by
  obtain ⟨first, last, -⟩ := month_of_isValid valid
  obtain ⟨year, month, day⟩ := d
  simp only [isValid, Bool.and_eq_true, decide_eq_true_eq] at valid
  cases leap : isLeap year <;> interval_cases month
  all_goals simp [marchMonth, daysIn, leap] at valid ⊢
  all_goals omega

/-- A date lies in its year counted from March. -/
theorem toDays_mem_marchYear (valid : d.isValid) : marchStart d.marchYear - 719468 ≤ d.toDays ∧
    d.toDays < marchStart (d.marchYear + 1) - 719468 := by
  have day := day_le_of_isValid valid
  obtain ⟨first, last, pos⟩ := month_of_isValid valid
  have month : 0 ≤ d.marchMonth ∧ d.marchMonth ≤ 11 := by
    unfold marchMonth
    split <;> omega
  have february : d.marchMonth = 11 → d.marchYear + 1 = d.year := by
    unfold marchMonth marchYear
    split <;> omega
  rw [toDays_eq, marchStart_succ]
  constructor
  · omega
  · split at day
    next ends =>
      rw [february ends]
      cases leap : isLeap d.year <;> simp only [leap, Bool.false_eq_true, if_true, if_false] at day ⊢ <;> omega
    next => split <;> omega

/-- A date that is before another is so by its parts counted from March. -/
theorem Before.march (before : d.Before d') (valid : d.isValid) (valid' : d'.isValid) :
    d.marchYear < d'.marchYear ∨ d.marchYear = d'.marchYear ∧
      (d.marchMonth < d'.marchMonth ∨ d.marchMonth = d'.marchMonth ∧ d.day < d'.day) := by
  obtain ⟨first, last, -⟩ := month_of_isValid valid
  obtain ⟨first', last', -⟩ := month_of_isValid valid'
  unfold Before at before
  unfold marchYear marchMonth
  split <;> split <;> omega

theorem marchStart_mono {year year' : Int} (le : year ≤ year') : marchStart year ≤ marchStart year' := by
  unfold marchStart
  omega

theorem toDays_lt (before : d.Before d') (valid : d.isValid) (valid' : d'.isValid) : d.toDays < d'.toDays := by
  rcases before.march valid valid' with earlier | ⟨same, later⟩
  · have ends := (toDays_mem_marchYear valid).2
    have starts := (toDays_mem_marchYear valid').1
    have apart := marchStart_mono (Int.add_one_le_of_lt earlier)
    omega
  · have day := day_le_of_isValid valid
    obtain ⟨first, last, pos⟩ := month_of_isValid valid
    obtain ⟨first', last', pos'⟩ := month_of_isValid valid'
    have month : d'.marchMonth ≤ 11 := by
      unfold marchMonth
      split <;> omega
    rw [toDays_eq, toDays_eq, same]
    split at day <;> omega

theorem before_trichotomy (d d' : Civil) : d.Before d' ∨ d = d' ∨ d'.Before d := by
  obtain ⟨year, month, day⟩ := d
  obtain ⟨year', month', day'⟩ := d'
  simp only [Before, mk.injEq]
  omega

/-- Day numbers and their dates have the same order. -/
theorem ofDays_before_iff {m n : Int} : (ofDays m).Before (ofDays n) ↔ m < n := by
  obtain ⟨valid, number⟩ := ofDays_spec m
  obtain ⟨valid', number'⟩ := ofDays_spec n
  constructor
  · intro before
    have less := toDays_lt before valid valid'
    omega
  · intro less
    rcases before_trichotomy (ofDays m) (ofDays n) with before | same | after
    · exact before
    · rw [same] at number
      omega
    · have greater := toDays_lt after valid' valid
      omega

theorem ofDays_inj {m n : Int} : ofDays m = ofDays n ↔ m = n := by
  constructor
  · intro same
    rw [← (ofDays_spec m).2, same, (ofDays_spec n).2]
  · exact congrArg ofDays

/-- The last day of February of a year that 400 divides. -/
example : ofDays 11016 = ⟨2000, 2, 29⟩ := by decide

end Folio.Time.Civil
