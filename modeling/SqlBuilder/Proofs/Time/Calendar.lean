import Mathlib.Order.Monotone.Basic
import SqlBuilder.Time.Calendar

/-!
Dates of day numbers are dates of the calendar, and the calendar gives them the same
numbers.  A day lies in one of the four hundred years of its era; the year is found by a
formula that never decreases from one day to the next and is right on the first and on
the last day of every year.
-/

namespace SqlBuilder

namespace Date

theorem monotone_yearOfEra : Monotone yearOfEra := by
  refine monotone_nat_of_le_succ fun dayOfEra => Nat.div_le_div_right ?_
  omega

/-- The last day of a year of the era.  The last year has a leap day, which the four
hundredth year after it brings. -/
def lastDay (yearOfEra : Nat) : Nat := daysBeforeYear (yearOfEra + 1) + yearOfEra / 399 - 1

theorem yearOfEra_first_and_last :
    ∀ year < 400, yearOfEra (daysBeforeYear year) = year ∧ yearOfEra (lastDay year) = year := by
  decide +kernel

variable {dayOfEra : Nat}

theorem yearOfEra_lt (hday : dayOfEra < 146097) : yearOfEra dayOfEra < 400 := by
  rw [yearOfEra]
  omega

/-- A day of the era lies in the year that the formula finds for it. -/
theorem daysBeforeYear_le_and_le_lastDay (hday : dayOfEra < 146097) :
    daysBeforeYear (yearOfEra dayOfEra) ≤ dayOfEra ∧
      dayOfEra ≤ lastDay (yearOfEra dayOfEra) := by
  have hyear := yearOfEra_lt hday
  constructor
  · by_contra hlater
    obtain ⟨before, hbefore⟩ : ∃ before, yearOfEra dayOfEra = before + 1 := by
      refine Nat.exists_eq_succ_of_ne_zero fun hzero => ?_
      rw [hzero] at hlater
      exact hlater (Nat.zero_le _)
    have hle : dayOfEra ≤ lastDay before := by
      rw [hbefore] at hlater
      rw [lastDay]
      omega
    have hmono := monotone_yearOfEra hle
    rw [(yearOfEra_first_and_last before (by omega)).2] at hmono
    omega
  · by_contra hearlier
    have hnext : yearOfEra dayOfEra + 1 < 400 := by
      by_contra hlast
      have hyear : yearOfEra dayOfEra = 399 := by omega
      rw [hyear] at hearlier
      have hend : lastDay 399 = 146096 := by decide
      omega
    have hle : daysBeforeYear (yearOfEra dayOfEra + 1) ≤ dayOfEra := by
      rw [lastDay] at hearlier
      omega
    have hmono := monotone_yearOfEra hle
    rw [(yearOfEra_first_and_last _ hnext).1] at hmono
    omega

end Date

namespace Calendar

theorem isLeapYear_iff {year : Int} :
    isLeapYear year = true ↔ year % 4 = 0 ∧ (year % 100 ≠ 0 ∨ year % 400 = 0) := by
  simp [isLeapYear]

theorem yearLength_eq (year : Int) : yearLength year = if isLeapYear year then 366 else 365 := by
  rw [yearLength, monthLengths]
  cases isLeapYear year <;> rfl

/-- Years up to a year, in which every fourth, hundredth and four hundredth one counts. -/
def countedDays (year : Int) : Int :=
  365 * year + (year + 3) / 4 - (year + 99) / 100 + (year + 399) / 400

/-- Counting leap years by division agrees with the lengths of the months, year by year. -/
theorem countedDays_add_one (year : Int) :
    countedDays (year + 1) = countedDays year + yearLength year := by
  rw [yearLength_eq, countedDays, countedDays]
  split
  · next hleap =>
      rw [isLeapYear_iff] at hleap
      omega
  · next hcommon =>
      rw [isLeapYear_iff] at hcommon
      omega

theorem daysOfYears_eq (first : Int) (count : Nat) :
    (daysOfYears first count : Int) = countedDays (first + count) - countedDays first := by
  induction count with
  | zero => simp [daysOfYears]
  | succ count ih =>
      have hnext := countedDays_add_one (first + count)
      rw [daysOfYears]
      push_cast
      rw [ih, ← Int.add_assoc, hnext]
      omega

/-- Adding up years one after another gives the same number of days as counting leap years
by division. -/
theorem daysToYear_eq (year : Int) : daysToYear year = countedDays year - 719528 := by
  have hepoch : countedDays 1970 = 719528 := by decide
  rw [daysToYear]
  split
  · next hle =>
      rw [daysOfYears_eq, hepoch, Int.toNat_of_nonneg (by omega)]
      congr 2
      omega
  · next hlt =>
      have hsum : year + (1970 - year) = 1970 := by omega
      rw [daysOfYears_eq, Int.toNat_of_nonneg (by omega), hsum, hepoch]
      omega

/-- Years that are counted from March end with the February of the next one. -/
theorem countedDays_of_era (era : Int) {yearIndex : Nat} (hyear : yearIndex < 400) :
    countedDays (era * 400 + yearIndex + 1) =
      era * Date.daysPerEra + Date.daysBeforeYear yearIndex + 366 := by
  rw [countedDays, Date.daysPerEra, Date.daysBeforeYear]
  omega

/-- Every four hundred years are alike. -/
theorem isLeapYear_of_era (era year : Int) : isLeapYear (era * 400 + year) = isLeapYear year := by
  have hfourth : (era * 400 + year) % 4 = year % 4 := by omega
  have hhundredth : (era * 400 + year) % 100 = year % 100 := by omega
  have hera : (era * 400 + year) % 400 = year % 400 := by omega
  rw [isLeapYear, isLeapYear, hfourth, hhundredth, hera]

theorem lastDay_eq :
    ∀ year < 400, Date.lastDay year =
      Date.daysBeforeYear year + if isLeapYear (year + 1 : Nat) then 365 else 364 := by
  decide +kernel

end Calendar

namespace Date

open Calendar

/-- The first day of the month of this index, counted from the March of the year on. -/
def firstOfMonth (year : Int) (monthIndex : Nat) : Date :=
  let month := if monthIndex < 10 then monthIndex + 3 else monthIndex - 9
  ⟨year + (if month ≤ 2 then 1 else 0), month, 1⟩

theorem firstOfMonth_of_lt (year : Int) {monthIndex : Nat} (hmonth : monthIndex < 10) :
    firstOfMonth year monthIndex = ⟨year, monthIndex + 3, 1⟩ := by
  rw [firstOfMonth, if_pos hmonth, if_neg (by omega), Int.add_zero]

theorem firstOfMonth_of_le (year : Int) {monthIndex : Nat} (hmonth : 10 ≤ monthIndex)
    (hlt : monthIndex < 12) : firstOfMonth year monthIndex = ⟨year + 1, monthIndex - 9, 1⟩ := by
  have hlate : ¬ monthIndex < 10 := by omega
  have hwinter : monthIndex - 9 ≤ 2 := by omega
  simp only [firstOfMonth, if_neg hlate, if_pos hwinter]

/-- Every year has the months of a leap year or those of a common year. -/
theorem exists_monthLengths_eq (year : Int) :
    ∃ like ∈ [(2000 : Int), 2001], monthLengths year = monthLengths like := by
  cases hleap : isLeapYear year with
  | true => exact ⟨2000, by decide, by rw [monthLengths, hleap]; decide⟩
  | false => exact ⟨2001, by decide, by rw [monthLengths, hleap]; decide⟩

/-- There are 306 days from March to December, by which counting from January and counting
from March differ. -/
theorem total_take_monthLengths (year : Int) :
    (∀ monthIndex < 10, total ((monthLengths year).take (monthIndex + 2)) + 306 =
      daysBeforeMonth monthIndex + yearLength year) ∧
    ∀ monthIndex < 12, 10 ≤ monthIndex →
      total ((monthLengths year).take (monthIndex - 10)) + 306 = daysBeforeMonth monthIndex := by
  obtain ⟨like, hlike, hlengths⟩ := exists_monthLengths_eq year
  rw [yearLength, hlengths]
  clear hlengths
  revert like
  decide

/-- From March to January the lengths of the months are what lies between their beginnings. -/
theorem monthLengths_getD (year : Int) :
    ∀ monthIndex < 11, daysBeforeMonth monthIndex +
      (monthLengths year).getD ((monthIndex + 2) % 12) 0 = daysBeforeMonth (monthIndex + 1) := by
  obtain ⟨like, hlike, hlengths⟩ := exists_monthLengths_eq year
  rw [hlengths]
  clear hlengths
  revert like
  decide

theorem number_firstOfMonth (year : Int) {monthIndex : Nat} (hmonth : monthIndex < 12) :
    (firstOfMonth year monthIndex).number =
      countedDays (year + 1) - 719834 + daysBeforeMonth monthIndex := by
  have hfirst : ∀ (year : Int) (month : Nat), number ⟨year, month, 1⟩ =
      countedDays year - 719528 + total ((monthLengths year).take (month - 1)) := by
    intro year month
    rw [number, daysToYear_eq]
    exact Int.add_zero _
  rcases Nat.lt_or_ge monthIndex 10 with hearly | hlate
  · have hsum := (total_take_monthLengths year).1 monthIndex hearly
    rw [firstOfMonth_of_lt year hearly, hfirst, countedDays_add_one]
    have hindex : monthIndex + 3 - 1 = monthIndex + 2 := rfl
    rw [hindex]
    omega
  · have hsum := (total_take_monthLengths (year + 1)).2 monthIndex hmonth hlate
    have hindex : monthIndex - 9 - 1 = monthIndex - 10 := by omega
    rw [firstOfMonth_of_le year hlate hmonth, hfirst, hindex]
    omega

/-- A day of the month stands in the calendar if it comes before the next month or, in
February, before the end of the year that is counted from March. -/
theorem inCalendar_firstOfMonth (year : Int) {monthIndex day : Nat} (hmonth : monthIndex < 12)
    (hday : daysBeforeMonth monthIndex + day ≤ if isLeapYear (year + 1) then 365 else 364)
    (hnext : daysBeforeMonth monthIndex + day < daysBeforeMonth (monthIndex + 1)) :
    inCalendar { firstOfMonth year monthIndex with day := day + 1 } = true := by
  have hvalid : ∀ (year : Int) (month : Nat), 1 ≤ month → month ≤ 12 →
      day + 1 ≤ (monthLengths year).getD (month - 1) 0 → inCalendar ⟨year, month, day + 1⟩ := by
    intro year month hfirst hlast hlength
    simp only [inCalendar, Bool.and_eq_true, decide_eq_true_eq]
    exact ⟨⟨⟨hfirst, hlast⟩, Nat.le_add_left 1 day⟩, hlength⟩
  rcases Nat.lt_or_ge monthIndex 10 with hearly | hlate
  · have hlength := monthLengths_getD year monthIndex (by omega)
    have hindex : (monthIndex + 2) % 12 = monthIndex + 3 - 1 := by omega
    rw [hindex] at hlength
    rw [firstOfMonth_of_lt year hearly]
    exact hvalid year (monthIndex + 3) (by omega) (by omega) (by omega)
  · rw [firstOfMonth_of_le year hlate hmonth]
    refine hvalid (year + 1) (monthIndex - 9) (by omega) (by omega) ?_
    obtain rfl | rfl : monthIndex = 10 ∨ monthIndex = 11 := by omega
    · have hlength := monthLengths_getD (year + 1) 10 (by decide)
      exact Nat.le_of_add_le_add_left (hlength.symm ▸ hnext)
    · -- February ends with the year that is counted from March.
      have hbefore : daysBeforeMonth 11 = 337 := by decide
      have hlength : (monthLengths (year + 1)).getD (11 - 9 - 1) 0 =
          if isLeapYear (year + 1) then 29 else 28 := rfl
      rw [hbefore] at hday
      rw [hlength]
      cases hleap : isLeapYear (year + 1) with
      | true =>
          rw [hleap, if_pos rfl] at hday
          rw [if_pos rfl]
          omega
      | false =>
          rw [hleap, if_neg Bool.false_ne_true] at hday
          rw [if_neg Bool.false_ne_true]
          omega

/-- The day of this index of the year that begins with the March of the year. -/
def ofYear (year : Int) (dayOfYear : Nat) : Date :=
  let monthIndex := (5 * dayOfYear + 2) / 153
  { firstOfMonth year monthIndex with day := dayOfYear - daysBeforeMonth monthIndex + 1 }

/-- The month of a day of the year, and its place in the month. -/
theorem exists_ofYear_eq (year : Int) {dayOfYear : Nat} (hday : dayOfYear ≤ 365) :
    ∃ monthIndex day, monthIndex < 12 ∧ dayOfYear = daysBeforeMonth monthIndex + day ∧
      dayOfYear < daysBeforeMonth (monthIndex + 1) ∧
      ofYear year dayOfYear = { firstOfMonth year monthIndex with day := day + 1 } := by
  refine ⟨(5 * dayOfYear + 2) / 153, dayOfYear - daysBeforeMonth ((5 * dayOfYear + 2) / 153),
    ?_, ?_, ?_, rfl⟩
  · omega
  · rw [daysBeforeMonth]
    omega
  · rw [daysBeforeMonth]
    omega

theorem inCalendar_ofYear {year : Int} {dayOfYear : Nat}
    (hday : dayOfYear ≤ if isLeapYear (year + 1) then 365 else 364) :
    (ofYear year dayOfYear).inCalendar = true := by
  have hbound : dayOfYear ≤ 365 := hday.trans (by split <;> decide)
  obtain ⟨monthIndex, day, hmonth, rfl, hnext, hdate⟩ := exists_ofYear_eq year hbound
  rw [hdate]
  exact inCalendar_firstOfMonth year hmonth hday hnext

theorem number_ofYear (year : Int) {dayOfYear : Nat} (hday : dayOfYear ≤ 365) :
    (ofYear year dayOfYear).number = countedDays (year + 1) - 719834 + dayOfYear := by
  obtain ⟨monthIndex, day, hmonth, rfl, -, hdate⟩ := exists_ofYear_eq year hday
  have hlater : ({ firstOfMonth year monthIndex with day := day + 1 } : Date).number =
      (firstOfMonth year monthIndex).number + day := by
    simp [number, firstOfMonth]
  rw [hdate, hlater, number_firstOfMonth year hmonth]
  push_cast
  omega

/-- The era of a day, and its place in the era. -/
theorem exists_ofDays_eq (days : Int) :
    ∃ (era : Int) (dayOfEra : Nat), dayOfEra < 146097 ∧
      days + epochOffset = era * daysPerEra + dayOfEra ∧
      ofDays days = ofYear (era * 400 + yearOfEra dayOfEra)
        (dayOfEra - daysBeforeYear (yearOfEra dayOfEra)) := by
  have hpos : 0 < daysPerEra := by decide
  have hnonneg := Int.emod_nonneg (days + epochOffset) hpos.ne'
  have hlt := Int.emod_lt_of_pos (days + epochOffset) hpos
  have hsum := Int.mul_ediv_add_emod (days + epochOffset) daysPerEra
  refine ⟨(days + epochOffset) / daysPerEra, ((days + epochOffset) % daysPerEra).toNat,
    ?_, ?_, rfl⟩
  · rw [daysPerEra] at hlt hnonneg ⊢
    omega
  · rw [Int.toNat_of_nonneg hnonneg, Int.mul_comm, hsum]

/-- The date of a day number is a date of the calendar, and the calendar counts as many
days up to it. -/
theorem inCalendar_and_number_ofDays (days : Int) :
    (ofDays days).inCalendar = true ∧ (ofDays days).number = days := by
  obtain ⟨era, dayOfEra, hday, hsum, hdate⟩ := exists_ofDays_eq days
  have hyear := yearOfEra_lt hday
  obtain ⟨hfirst, hlast⟩ := daysBeforeYear_le_and_le_lastDay hday
  rw [lastDay_eq _ hyear] at hlast
  have hleap : isLeapYear (era * 400 + yearOfEra dayOfEra + 1) =
      isLeapYear (yearOfEra dayOfEra + 1 : Nat) := by
    rw [Int.add_assoc, isLeapYear_of_era, Int.natCast_add, Int.natCast_one]
  have hdayOfYear : dayOfEra - daysBeforeYear (yearOfEra dayOfEra) ≤
      if isLeapYear (era * 400 + yearOfEra dayOfEra + 1) then 365 else 364 := by
    rw [hleap]
    omega
  have hbound := hdayOfYear.trans (show (if _ then 365 else 364) ≤ 365 by split <;> decide)
  rw [hdate]
  refine ⟨inCalendar_ofYear hdayOfYear, ?_⟩
  rw [number_ofYear _ hbound, countedDays_of_era era hyear, Int.ofNat_sub hfirst]
  rw [epochOffset] at hsum
  omega

theorem month_le_and_day_le {date : Date} (hdate : date.inCalendar = true) :
    date.month ≤ 12 ∧ date.day ≤ 31 := by
  have hlengths : ∀ length ∈ monthLengths date.year, length ≤ 31 := by
    rw [monthLengths]
    cases isLeapYear date.year <;> decide
  simp only [inCalendar, Bool.and_eq_true, decide_eq_true_eq] at hdate
  obtain ⟨⟨⟨-, hmonth⟩, -⟩, hday⟩ := hdate
  refine ⟨hmonth, hday.trans ?_⟩
  rw [List.getD_eq_getElem?_getD]
  cases hlength : (monthLengths date.year)[date.month - 1]? with
  | none => exact Nat.zero_le 31
  | some length => exact hlengths length (List.mem_of_getElem? hlength)

end Date

end SqlBuilder
