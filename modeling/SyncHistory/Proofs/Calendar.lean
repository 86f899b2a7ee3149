import Mathlib.Tactic.IntervalCases
import SyncHistory.Calendar

/-!
# Days and dates

Every day has a date that exists (`CivilDate.isValid_ofDayNumber`), and it is the day of this date
(`CivilDate.dayNumber_ofDayNumber`).

A cycle of 400 years is taken apart into centuries, four years each, and single years
(`CivilDate.CyclePlace`), so that the divisions in `CivilDate.ofDayNumber` come to sums of small numbers.
Within a year, which begins with 1 March, the months are found by another division
(`CivilDate.ofMarch_cases`).
-/

namespace SyncHistory.CivilDate

/-! ## Years in a cycle -/

/-- A day of a cycle of 400 years lies in a century, there in a group of four years, and in one year of
these; all are counted from zero. Only the last year of a group has a leap day, and the last group of a
century has none unless the century is the last one. -/
structure CyclePlace (dayOfCycle century group year dayOfYear : Int) : Prop where
  sum : dayOfCycle = 36524 * century + 1461 * group + 365 * year + dayOfYear
  century_le : 0 ≤ century ∧ century ≤ 3
  group_le : 0 ≤ group ∧ group ≤ 24
  year_le : 0 ≤ year ∧ year ≤ 3
  dayOfYear_le : 0 ≤ dayOfYear ∧ dayOfYear ≤ 365
  leapDay : dayOfYear = 365 → year = 3 ∧ (group < 24 ∨ century = 3)

theorem exists_cyclePlace {d : Int} (nonneg : 0 ≤ d) (lt : d < 146097) :
    ∃ century group year dayOfYear, CyclePlace d century group year dayOfYear := by
  -- the last day of the cycle belongs to the last century, and so on, though the quotient is one more
  obtain ⟨century, r, rfl, century_le, r_nonneg, r_lt⟩ : ∃ century r, d = 36524 * century + r ∧
      (0 ≤ century ∧ century ≤ 3) ∧ 0 ≤ r ∧ (r < 36524 ∨ century = 3 ∧ r = 36524) :=
    ⟨min (d / 36524) 3, d - 36524 * min (d / 36524) 3, by omega⟩
  obtain ⟨group, s, rfl, group_le, s_nonneg, s_le, s_last⟩ : ∃ group s, r = 1461 * group + s ∧
      (0 ≤ group ∧ group ≤ 24) ∧ 0 ≤ s ∧ s ≤ 1460 ∧ (s = 1460 → group < 24 ∨ century = 3) :=
    ⟨min (r / 1461) 24, r - 1461 * min (r / 1461) 24, by omega⟩
  exact ⟨century, group, min (s / 365) 3, s - 365 * min (s / 365) 3,
    ⟨by omega, century_le, group_le, by omega, by omega, by omega⟩⟩

namespace CyclePlace

variable {n d c g y dayOfYear : Int}

theorem year_eq (place : CyclePlace d c g y dayOfYear) :
    (d - d / 1460 + d / 36524 - d / 146096) / 365 = 100 * c + 4 * g + y := by
  obtain ⟨rfl, century_le, group_le, year_le, dayOfYear_le, leapDay⟩ := place
  -- what is taken away are the leap days before, one too many near the end of a group
  have groups : (36524 * c + 1461 * g + 365 * y + dayOfYear) / 1460 =
      25 * c + g + (24 * c + g + 365 * y + dayOfYear) / 1460 := by omega
  have centuries : (36524 * c + 1461 * g + 365 * y + dayOfYear) / 36524 =
      c + (1461 * g + 365 * y + dayOfYear) / 36524 := by omega
  have cycles : (36524 * c + 1461 * g + 365 * y + dayOfYear) / 146096 =
      (1461 * g + 365 * y + dayOfYear) / 36524 := by omega
  have within : 0 ≤ dayOfYear - (24 * c + g + 365 * y + dayOfYear) / 1460 ∧
      dayOfYear - (24 * c + g + 365 * y + dayOfYear) / 1460 < 365 := by omega
  rw [groups, centuries, cycles]
  generalize (24 * c + g + 365 * y + dayOfYear) / 1460 = early at within ⊢
  generalize (1461 * g + 365 * y + dayOfYear) / 36524 = last
  omega

theorem dayOfYear_eq (place : CyclePlace d c g y dayOfYear) :
    d - (365 * (100 * c + 4 * g + y) + (100 * c + 4 * g + y) / 4 - (100 * c + 4 * g + y) / 100) =
      dayOfYear := by
  obtain ⟨rfl, century_le, group_le, year_le, -, -⟩ := place
  omega

/-- A leap day belongs to a leap year; the year began in March of the year before. -/
theorem isLeapYear (place : CyclePlace d c g y dayOfYear) (cycle : Int) (last : dayOfYear = 365) :
    isLeapYear (100 * c + 4 * g + y + cycle * 400 + 1) = true := by
  obtain ⟨-, century_le, group_le, -, -, leapDay⟩ := place
  obtain ⟨rfl, whole⟩ := leapDay last
  have four : (100 * c + 4 * g + 3 + cycle * 400 + 1) % 4 = 0 := by omega
  have century : (100 * c + 4 * g + 3 + cycle * 400 + 1) % 100 ≠ 0 ∨
      (100 * c + 4 * g + 3 + cycle * 400 + 1) % 400 = 0 := by omega
  simpa [CivilDate.isLeapYear, four] using century

end CyclePlace

/-! ## Months in a year -/

/-- The date that many days after 1 March of a year. -/
def ofMarch (year dayOfYear : Int) : CivilDate :=
  let m := (5 * dayOfYear + 2) / 153
  let day := (dayOfYear - (153 * m + 2) / 5 + 1).toNat
  let month := (if m < 10 then m + 3 else m - 9).toNat
  ⟨if month ≤ 2 then year + 1 else year, month, day⟩

theorem CyclePlace.ofDayNumber_eq {n c g y dayOfYear : Int}
    (place : CyclePlace ((n + 719468) % 146097) c g y dayOfYear) :
    ofDayNumber n = ofMarch (100 * c + 4 * g + y + (n + 719468) / 146097 * 400) dayOfYear := by
  simp only [ofDayNumber, ofMarch, place.year_eq, place.dayOfYear_eq]

/-- A day of a year that begins with 1 March, by month and day. -/
theorem ofMarch_cases (year : Int) {dayOfYear : Int} (nonneg : 0 ≤ dayOfYear) (le : dayOfYear ≤ 365) :
    ∃ m k : Nat, m ≤ 11 ∧ dayOfYear = (153 * m + 2) / 5 + k ∧ dayOfYear < (153 * (m + 1) + 2) / 5 ∧
      ofMarch year dayOfYear = if m < 10 then ⟨year, m + 3, k + 1⟩ else ⟨year + 1, m - 9, k + 1⟩ := by
  obtain ⟨m, hm⟩ : ∃ m : Nat, (5 * dayOfYear + 2) / 153 = m :=
    ⟨_, (Int.toNat_of_nonneg (by omega)).symm⟩
  obtain ⟨k, hk⟩ : ∃ k : Nat, dayOfYear - (153 * m + 2) / 5 = k :=
    ⟨_, (Int.toNat_of_nonneg (by omega)).symm⟩
  refine ⟨m, k, by omega, by omega, by omega, ?_⟩
  have day : ((k : Int) + 1).toNat = k + 1 := by omega
  simp only [ofMarch, hm, hk, day]
  by_cases early : m < 10
  · have month : (if (m : Int) < 10 then (m : Int) + 3 else m - 9).toNat = m + 3 := by omega
    rw [month, if_pos early, if_neg (by omega)]
  · have month : (if (m : Int) < 10 then (m : Int) + 3 else m - 9).toNat = m - 9 := by omega
    rw [month, if_neg early, if_pos (by omega)]

theorem dayNumber_ofMarch {year dayOfYear : Int} (nonneg : 0 ≤ dayOfYear) (le : dayOfYear ≤ 365) :
    dayNumber (ofMarch year dayOfYear) = year / 400 * 146097 +
      (year % 400 * 365 + year % 400 / 4 - year % 400 / 100 + dayOfYear) - 719468 := by
  obtain ⟨m, k, -, day, -, date⟩ := ofMarch_cases year nonneg le
  rw [date]
  by_cases early : m < 10
  · have month : ((m + 3 : Nat) : Int) - 3 = m := by omega
    have late : ¬ m + 3 ≤ 2 := by omega
    rw [if_pos early]
    simp only [dayNumber, if_neg late, month]
    omega
  · have month : ((m - 9 : Nat) : Int) + 9 = m := by omega
    have late : m - 9 ≤ 2 := by omega
    rw [if_neg early]
    simp only [dayNumber, if_pos late, month, Int.add_sub_cancel]
    omega

theorem isValid_ofMarch {year dayOfYear : Int} (nonneg : 0 ≤ dayOfYear) (le : dayOfYear ≤ 365)
    (leap : dayOfYear = 365 → isLeapYear (year + 1) = true) : (ofMarch year dayOfYear).isValid = true := by
  obtain ⟨m, k, m_le, day, day_lt, date⟩ := ofMarch_cases year nonneg le
  rw [date, isValid, Bool.and_eq_true, decide_eq_true_iff, decide_eq_true_iff]
  by_cases february : m = 11
  · subst february
    show 1 ≤ k + 1 ∧ k + 1 ≤ if isLeapYear (year + 1) = true then 29 else 28
    by_cases last : dayOfYear = 365
    · rw [if_pos (leap last)]
      omega
    · split <;> omega
  · have m_le : m ≤ 10 := by omega
    interval_cases m
    all_goals
      simp only [Nat.reduceLT, Nat.reduceAdd, Nat.reduceSub, if_true, if_false, daysInMonth]
      omega

/-! ## Days and dates -/

theorem exists_place (n : Int) :
    ∃ century group year dayOfYear, CyclePlace ((n + 719468) % 146097) century group year dayOfYear :=
  exists_cyclePlace (Int.emod_nonneg _ (by decide)) (Int.emod_lt_of_pos _ (by decide))

theorem dayNumber_ofDayNumber (n : Int) : dayNumber (ofDayNumber n) = n := by
  obtain ⟨c, g, y, dayOfYear, place⟩ := exists_place n
  obtain ⟨nonneg, le⟩ := place.dayOfYear_le
  rw [place.ofDayNumber_eq, dayNumber_ofMarch nonneg le]
  obtain ⟨sum, century_le, group_le, year_le, -, -⟩ := place
  have cycle : (100 * c + 4 * g + y + (n + 719468) / 146097 * 400) / 400 = (n + 719468) / 146097 := by omega
  have rest : (100 * c + 4 * g + y + (n + 719468) / 146097 * 400) % 400 = 100 * c + 4 * g + y := by omega
  have fours : (100 * c + 4 * g + y) / 4 = 25 * c + g := by omega
  have hundreds : (100 * c + 4 * g + y) / 100 = c := by omega
  rw [cycle, rest, fours, hundreds]
  omega

theorem isValid_ofDayNumber (n : Int) : (ofDayNumber n).isValid = true := by
  obtain ⟨c, g, y, dayOfYear, place⟩ := exists_place n
  obtain ⟨nonneg, le⟩ := place.dayOfYear_le
  rw [place.ofDayNumber_eq]
  exact isValid_ofMarch nonneg le (place.isLeapYear _)

/-- The year of a day is near the years of its cycle. -/
theorem year_ofDayNumber_bounds (n : Int) :
    (n + 719468) / 146097 * 400 ≤ (ofDayNumber n).year ∧
      (ofDayNumber n).year ≤ (n + 719468) / 146097 * 400 + 400 := by
  obtain ⟨c, g, y, dayOfYear, place⟩ := exists_place n
  rw [place.ofDayNumber_eq]
  obtain ⟨-, century_le, group_le, year_le, -, -⟩ := place
  simp only [ofMarch]
  split <;> omega

end SyncHistory.CivilDate
