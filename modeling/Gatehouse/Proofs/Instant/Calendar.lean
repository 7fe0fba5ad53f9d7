import Mathlib.Tactic.IntervalCases
import Gatehouse.Instant.Calendar

/-!
# Days and dates

Every day is told by a valid date, and the date leads back to the day.  A day is
split into its era of 400 years, the year of that era, the month of the year,
counted from March, and the day of the month.  Each part is bounded by itself, and
putting them together again undoes the splitting.
-/

set_option autoImplicit false

namespace Gatehouse.Calendar

/-- The year of its era that a day of the era lies in. -/
def yearOfEra (ofEra : Int) : Int :=
  (ofEra - ofEra / 1460 + ofEra / 36524 - ofEra / 146096) / 365

/-- The day of its year, which starts in March, that a day of an era is. -/
def ofYear (ofEra : Int) : Int :=
  ofEra - (365 * yearOfEra ofEra + yearOfEra ofEra / 4 - yearOfEra ofEra / 100)

/-- Months are counted from March and have 153 days in every five. -/
def shiftedMonth (ofYear : Int) : Int :=
  (5 * ofYear + 2) / 153

/-- The date of a month that is counted from March, in a year from March. -/
def marchDate (year month day : Int) : Date :=
  let civil := if month < 10 then month + 3 else month - 9
  ⟨if civil ≤ 2 then year + 1 else year, civil.toNat, day.toNat⟩

theorem ofDays_eq (days : Int) :
    Date.ofDays days =
      let era := Int.fdiv (days + 719468) 146097
      let day := ofYear (days + 719468 - era * 146097)
      marchDate (yearOfEra (days + 719468 - era * 146097) + era * 400) (shiftedMonth day)
        (day - (153 * shiftedMonth day + 2) / 5 + 1) := rfl

/-! ## Days of an era -/

section

variable (ofEra : Int) (first : 0 ≤ ofEra) (last : ofEra < 146097)

include first last

theorem yearOfEra_bounds : 0 ≤ yearOfEra ofEra ∧ yearOfEra ofEra < 400 := by
  unfold yearOfEra
  omega

/-- The correction for leap years without a leap day is the century; the last day of the era belongs
to the last one. -/
theorem century_cases : ∃ century : Int, (century = 0 ∨ century = 1 ∨ century = 2 ∨ century = 3) ∧
    ofEra / 36524 - ofEra / 146096 = century ∧ yearOfEra ofEra / 100 = century := by
  have cases : ofEra / 36524 = 0 ∨ ofEra / 36524 = 1 ∨ ofEra / 36524 = 2 ∨ ofEra / 36524 = 3 ∨
      ofEra / 36524 = 4 := by omega
  refine ⟨_, by omega, rfl, ?_⟩
  unfold yearOfEra
  rcases cases with same | same | same | same | same <;> omega

theorem ofYear_bounds : 0 ≤ ofYear ofEra ∧ ofYear ofEra < 366 := by
  obtain ⟨century, cases, correction, same⟩ := century_cases ofEra first last
  unfold ofYear
  rw [same]
  unfold yearOfEra at same ⊢
  rcases cases with rfl | rfl | rfl | rfl <;> constructor <;> omega

/-- Only a leap year has a last day of February, which is the last day of a year from March. -/
theorem leap_of_last (whole : ofYear ofEra = 365) :
    (yearOfEra ofEra + 1) % 4 = 0 ∧
      ((yearOfEra ofEra + 1) % 100 ≠ 0 ∨ (yearOfEra ofEra + 1) % 400 = 0) := by
  obtain ⟨century, cases, correction, same⟩ := century_cases ofEra first last
  unfold ofYear at whole
  rw [same] at whole
  have fourth : yearOfEra ofEra % 4 = 0 ∨ yearOfEra ofEra % 4 = 1 ∨ yearOfEra ofEra % 4 = 2 ∨
      yearOfEra ofEra % 4 = 3 := by omega
  -- with the century and the year's place among four known, all divisions have one quotient
  unfold yearOfEra at *
  rcases cases with rfl | rfl | rfl | rfl <;> rcases fourth with rest | rest | rest | rest <;> omega

end

/-! ## Days of a year -/

theorem shiftedMonth_bounds (day : Int) (first : 0 ≤ day) (last : day < 366) :
    0 ≤ shiftedMonth day ∧ shiftedMonth day < 12 := by
  unfold shiftedMonth
  omega

theorem toDays_marchDate (era year month day : Int) (years : 0 ≤ year ∧ year < 400)
    (months : 0 ≤ month ∧ month < 12) (first : 1 ≤ day) :
    (marchDate (year + era * 400) month day).toDays =
      era * 146097 + (365 * year + year / 4 - year / 100) + ((153 * month + 2) / 5 + day - 1) -
        719468 := by
  have turns : Int.fdiv (year + era * 400) 400 = era := by
    rw [Int.fdiv_eq_ediv_of_nonneg _ (by decide)]
    omega
  by_cases early : month < 10
  · have civil : (month + 3).toNat = month + 3 := by omega
    have late : ¬ month + 3 ≤ 2 := by omega
    have lateNat : ¬ (month + 3).toNat ≤ 2 := by omega
    have march : (month + 3).toNat > 2 := by omega
    simp only [marchDate, Date.toDays, if_pos early, if_neg late, if_neg lateNat, if_pos march,
      turns]
    omega
  · have civil : (month - 9).toNat = month - 9 := by omega
    have winter : month - 9 ≤ 2 := by omega
    have winterNat : (month - 9).toNat ≤ 2 := by omega
    have march : ¬ (month - 9).toNat > 2 := by omega
    have back : year + era * 400 + 1 - 1 = year + era * 400 := by omega
    simp only [marchDate, Date.toDays, if_neg early, if_pos winter, if_pos winterNat, if_neg march,
      back, turns]
    omega

theorem monthDays_le (year : Int) (month : Nat) : monthDays year month ≤ 31 := by
  unfold monthDays
  split <;> try split
  all_goals decide

/-- The months have the days that the months from March take up, given that the last day of a year
from March is the last of a leap year's February. -/
theorem valid_marchDate (year day : Int) (first : 0 ≤ day) (last : day < 366)
    (leap : day = 365 → isLeap (year + 1) = true) :
    (marchDate year (shiftedMonth day) (day - (153 * shiftedMonth day + 2) / 5 + 1)).valid =
      true := by
  have bounds := shiftedMonth_bounds day first last
  have whole : 153 * shiftedMonth day ≤ 5 * day + 2 ∧
      5 * day + 2 < 153 * shiftedMonth day + 153 := by
    unfold shiftedMonth
    omega
  obtain ⟨month, is⟩ : ∃ month : Nat, shiftedMonth day = month :=
    ⟨(shiftedMonth day).toNat, by omega⟩
  rw [is] at bounds whole ⊢
  have few : month < 12 := by omega
  unfold Date.valid marchDate
  by_cases full : day = 365
  · have long := leap full
    interval_cases month <;> simp [monthDays, long] <;> omega
  · interval_cases month <;> simp [monthDays] <;> omega

/-! ## Days of the calendar -/

section

variable (days : Int)

theorem exists_parts : ∃ era ofEra : Int, 0 ≤ ofEra ∧ ofEra < 146097 ∧
    days + 719468 = era * 146097 + ofEra ∧
    Date.ofDays days = marchDate (yearOfEra ofEra + era * 400) (shiftedMonth (ofYear ofEra))
      (ofYear ofEra - (153 * shiftedMonth (ofYear ofEra) + 2) / 5 + 1) := by
  refine ⟨Int.fdiv (days + 719468) 146097,
    days + 719468 - Int.fdiv (days + 719468) 146097 * 146097, ?_, ?_, by omega, ofDays_eq days⟩
  · rw [Int.fdiv_eq_ediv_of_nonneg _ (by decide)]
    omega
  · rw [Int.fdiv_eq_ediv_of_nonneg _ (by decide)]
    omega

theorem toDays_ofDays : (Date.ofDays days).toDays = days := by
  obtain ⟨era, ofEra, first, last, parts, told⟩ := exists_parts days
  have years := yearOfEra_bounds ofEra first last
  have dayBounds := ofYear_bounds ofEra first last
  have months := shiftedMonth_bounds (ofYear ofEra) dayBounds.1 dayBounds.2
  have positive : 1 ≤ ofYear ofEra - (153 * shiftedMonth (ofYear ofEra) + 2) / 5 + 1 := by
    unfold shiftedMonth
    omega
  rw [told, toDays_marchDate era _ _ _ years months positive]
  have whole : ofEra = 365 * yearOfEra ofEra + yearOfEra ofEra / 4 - yearOfEra ofEra / 100 +
      ofYear ofEra := by
    unfold ofYear
    omega
  omega

theorem valid_ofDays : (Date.ofDays days).valid = true := by
  obtain ⟨era, ofEra, first, last, -, told⟩ := exists_parts days
  have dayBounds := ofYear_bounds ofEra first last
  rw [told]
  refine valid_marchDate _ _ dayBounds.1 dayBounds.2 ?_
  intro whole
  obtain ⟨fourth, hundredth⟩ := leap_of_last ofEra first last whole
  unfold isLeap
  simp only [Bool.and_eq_true, Bool.or_eq_true, beq_iff_eq, bne_iff_ne]
  omega

end

end Gatehouse.Calendar
