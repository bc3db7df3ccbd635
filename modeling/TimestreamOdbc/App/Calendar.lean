import TimestreamOdbc.App.TimestreamColumn
import Mathlib.Tactic.IntervalCases
import Mathlib.Data.Int.ConditionallyCompleteOrder

/-!
# The calendar

`timegm` and `gmtime` in the proleptic Gregorian calendar, for the dates and times of day that there
are: `gmtime` gives back what `timegm` was given.  Both count the years from March on and in eras of
400 years, and the proof follows their steps: the year in its era, the month in its year, the day.
-/

namespace TimestreamOdbc

/-- The leap years of the Gregorian calendar. -/
def isLeapYear (year : ℤ) : Bool := year % 4 = 0 && (year % 100 ≠ 0 || year % 400 = 0)

/-- The number of days of a month. -/
def daysInMonth (year month : ℤ) : ℤ :=
  if month = 2 then if isLeapYear year then 29 else 28
  else if month ∈ [4, 6, 9, 11] then 30
  else 31

/-- A date of the calendar. -/
structure ValidDate (year month day : ℤ) : Prop where
  month_pos : 1 ≤ month
  month_le : month ≤ 12
  day_pos : 1 ≤ day
  day_le : day ≤ daysInMonth year month

/-- A time of the day. -/
structure ValidTime (hour minute second : ℤ) : Prop where
  hour_nonneg : 0 ≤ hour
  hour_lt : hour < 24
  minute_nonneg : 0 ≤ minute
  minute_lt : minute < 60
  second_nonneg : 0 ≤ second
  second_lt : second < 60

/-- A month has at most 31 days. -/
lemma daysInMonth_le (year month : ℤ) : daysInMonth year month ≤ 31 := by
  unfold daysInMonth
  split
  · split <;> decide
  · split <;> decide

/-! ## The year in its era -/

/-- The century of a day: the last day of an era is a leap day, and no century of its own. -/
lemma century_eq {c w : ℤ} (hc : 0 ≤ c) (hc' : c < 4) (hw : 0 ≤ w) (hw' : w ≤ 36524)
    (hlast : w = 36524 → c = 3) :
    (36524 * c + w) / 36524 - (36524 * c + w) / 146096 = c := by
  by_cases h : w = 36524
  · obtain rfl := hlast h
    rw [h]
    decide
  · have hfirst : (36524 * c + w) / 36524 = c := by omega
    have hsecond : (36524 * c + w) / 146096 = 0 := by omega
    omega

/-- The year that is found for a day of an era is the one that the day was counted from. A year, from
March on, has a day 365 only if it ends with the February of a leap year. -/
lemma yearOfEra_eq {y d : ℤ} (hy : 0 ≤ y) (hy' : y < 400) (hd : 0 ≤ d) (hd' : d ≤ 365)
    (hleap : d = 365 → (y + 1) % 4 = 0 ∧ ((y + 1) % 100 ≠ 0 ∨ (y + 1) % 400 = 0)) :
    ((y * 365 + y / 4 - y / 100 + d) - (y * 365 + y / 4 - y / 100 + d) / 1460 +
      (y * 365 + y / 4 - y / 100 + d) / 36524 - (y * 365 + y / 4 - y / 100 + d) / 146096) / 365 =
      y := by
  -- the century, the four years in it, and the year in those
  obtain ⟨c, q, r, hc, hc', hq, hq', hr, hr', rfl⟩ : ∃ c q r : ℤ, 0 ≤ c ∧ c < 4 ∧ 0 ≤ q ∧ q < 25 ∧
      0 ≤ r ∧ r < 4 ∧ y = 100 * c + 4 * q + r :=
    ⟨y / 100, y % 100 / 4, y % 4, by omega, by omega, by omega, by omega, by omega, by omega,
      by omega⟩
  have h4 : (100 * c + 4 * q + r) / 4 = 25 * c + q := by omega
  have h100 : (100 * c + 4 * q + r) / 100 = c := by omega
  have hlast : d = 365 → r = 3 ∧ (q = 24 → c = 3) := by omega
  have hdays : (100 * c + 4 * q + r) * 365 + (25 * c + q) - c + d =
      36524 * c + (1461 * q + 365 * r + d) := by omega
  clear hleap hy hy'
  rw [h4, h100, hdays]
  have hcentury := century_eq (w := 1461 * q + 365 * r + d) hc hc' (by omega) (by omega) (by omega)
  have hquad : (36524 * c + (1461 * q + 365 * r + d)) / 1460 =
      25 * c + q + (24 * c + q + 365 * r + d) / 1460 := by omega
  have hrest : (24 * c + q + 365 * r + d) / 1460 = 0 ∧ d ≤ 364 ∨
      (24 * c + q + 365 * r + d) / 1460 = 1 ∧ 1 ≤ d := by omega
  rw [hquad]
  generalize (24 * c + q + 365 * r + d) / 1460 = rest at *
  generalize (36524 * c + (1461 * q + 365 * r + d)) / 36524 = centuries at *
  generalize (36524 * c + (1461 * q + 365 * r + d)) / 146096 = eras at *
  omega

/-! ## The month in its year -/

/-- The month, counted from March on, that is found for a day of the year. -/
lemma monthFromMarch_eq {mp d : ℤ} (hmp : 0 ≤ mp) (hmp' : mp < 12) (hd : 1 ≤ d) (hd' : d ≤ 31)
    (h30 : mp = 1 ∨ mp = 3 ∨ mp = 6 ∨ mp = 8 → d ≤ 30) (h29 : mp = 11 → d ≤ 29) :
    (5 * ((153 * mp + 2) / 5 + d - 1) + 2) / 153 = mp := by
  interval_cases mp <;> omega

/-- The days of a month, by its number from March on. -/
lemma ValidDate.day_bounds {year month day : ℤ} (h : ValidDate year month day) :
    ((month + 9) % 12 = 1 ∨ (month + 9) % 12 = 3 ∨ (month + 9) % 12 = 6 ∨ (month + 9) % 12 = 8 →
      day ≤ 30) ∧
      ((month + 9) % 12 = 11 → day ≤ 29) ∧
      ((month + 9) % 12 = 11 → day = 29 → isLeapYear year = true) := by
  obtain ⟨hmonth, hmonth', -, hday⟩ := h
  have hfebruary : (month + 9) % 12 = 11 → month = 2 := by omega
  refine ⟨?_, ?_, ?_⟩
  · intro hshort
    have hmem : month = 4 ∨ month = 6 ∨ month = 9 ∨ month = 11 := by omega
    rcases hmem with rfl | rfl | rfl | rfl <;> exact hday
  · intro hlast
    obtain rfl := hfebruary hlast
    have : daysInMonth year 2 ≤ 29 := by
      unfold daysInMonth
      split
      · split <;> decide
      · contradiction
    omega
  · intro hlast hleap
    obtain rfl := hfebruary hlast
    by_contra hnot
    have : daysInMonth year 2 = 28 := by simp [daysInMonth, hnot]
    omega

/-! ## Dates -/

/-- The days of an era by the years in it and the days of a year. -/
lemma dayOfEra_bounds {y d : ℤ} (hy : 0 ≤ y) (hy' : y < 400) (hd : 0 ≤ d) (hd' : d ≤ 365) :
    0 ≤ y * 365 + y / 4 - y / 100 + d ∧ y * 365 + y / 4 - y / 100 + d < 146097 := by
  omega

/-- The era of a day and the day in it. -/
lemma eraOfDay_eq (era : ℤ) {n : ℤ} (hn : 0 ≤ n) (hn' : n < 146097) :
    (era * 146097 + n - 719468 + 719468) / 146097 = era ∧
      (era * 146097 + n - 719468 + 719468) % 146097 = n := by
  omega

/-- The day in its year. -/
lemma dayOfYear_eq (y d : ℤ) :
    y * 365 + y / 4 - y / 100 + d - (365 * y + y / 4 - y / 100) = d := by
  omega

/-- The day in its month. -/
lemma dayOfMonth_eq (before day : ℤ) : before + day - 1 - before + 1 = day := by
  omega

/-- `gmtime` finds the era, the year in it, the month from March on and the day. -/
lemma civilFromDays_eq {era y mp day : ℤ} (hy : 0 ≤ y) (hy' : y < 400) (hmp : 0 ≤ mp)
    (hmp' : mp < 12) (hday : 1 ≤ day) (hday' : day ≤ 31)
    (hshort : mp = 1 ∨ mp = 3 ∨ mp = 6 ∨ mp = 8 → day ≤ 30) (hfebruary : mp = 11 → day ≤ 29)
    (hleap : mp = 11 → day = 29 →
      (y + 1) % 4 = 0 ∧ ((y + 1) % 100 ≠ 0 ∨ (y + 1) % 400 = 0)) :
    civilFromDays
        (era * 146097 + (y * 365 + y / 4 - y / 100 + ((153 * mp + 2) / 5 + day - 1)) - 719468) =
      (y + era * 400 + (if (if mp < 10 then mp + 3 else mp - 9) ≤ 2 then 1 else 0),
        if mp < 10 then mp + 3 else mp - 9, day) := by
  have hdoy : 0 ≤ (153 * mp + 2) / 5 + day - 1 ∧ (153 * mp + 2) / 5 + day - 1 ≤ 365 := by omega
  have hlast : (153 * mp + 2) / 5 + day - 1 = 365 → mp = 11 ∧ day = 29 := by omega
  have hmonth := monthFromMarch_eq hmp hmp' hday hday' hshort hfebruary
  have hyear := yearOfEra_eq hy hy' hdoy.1 hdoy.2 fun h => hleap (hlast h).1 (hlast h).2
  obtain ⟨hbound, hbound'⟩ := dayOfEra_bounds hy hy' hdoy.1 hdoy.2
  obtain ⟨hera, hdoe⟩ := eraOfDay_eq era hbound hbound'
  unfold civilFromDays
  dsimp only
  rw [hera, hdoe, hyear, dayOfYear_eq, hmonth]
  congr 2
  exact dayOfMonth_eq _ _

/-- `gmtime` finds the date that the days were counted for. -/
theorem civilFromDays_daysFromCivil {year month day : ℤ} (h : ValidDate year month day) :
    civilFromDays (daysFromCivil year month day) = (year, month, day) := by
  obtain ⟨hshort, hfebruary, hleap⟩ := h.day_bounds
  have hmonth := h.month_pos
  have hmonth' := h.month_le
  unfold daysFromCivil
  dsimp only
  rw [civilFromDays_eq (by omega) (by omega) (by omega) (by omega) h.day_pos
    (h.day_le.trans (daysInMonth_le year month)) hshort hfebruary]
  · have hnumber : (if (month + 9) % 12 < 10 then (month + 9) % 12 + 3 else (month + 9) % 12 - 9) =
        month := by
      split <;> omega
    rw [hnumber]
    congr 1
    split <;> omega
  · intro hlast hday
    have hleap' := hleap hlast hday
    simp only [isLeapYear, Bool.and_eq_true, Bool.or_eq_true, decide_eq_true_eq] at hleap'
    rw [if_pos (by omega)]
    omega

/-! ## Every day is the day of a date -/

/-- A day of an era is a day of one of its years, counted from March on, and day 365 only where the
next February is that of a leap year. -/
lemma exists_yearOfEra {doe : ℤ} (h : 0 ≤ doe) (h' : doe < 146097) :
    ∃ y d : ℤ, 0 ≤ y ∧ y < 400 ∧ 0 ≤ d ∧ d ≤ 365 ∧ doe = y * 365 + y / 4 - y / 100 + d ∧
      (d = 365 → (y + 1) % 4 = 0 ∧ ((y + 1) % 100 ≠ 0 ∨ (y + 1) % 400 = 0)) := by
  -- the century, the four years in it, and the year in those
  obtain ⟨c, w, hc, hc', hw, hw', hlast, hdoe⟩ : ∃ c w : ℤ, 0 ≤ c ∧ c < 4 ∧ 0 ≤ w ∧ w ≤ 36524 ∧
      (w = 36524 → c = 3) ∧ doe = 36524 * c + w := by
    by_cases h3 : doe < 109572
    · exact ⟨doe / 36524, doe % 36524, by omega, by omega, by omega, by omega, by omega, by omega⟩
    · exact ⟨3, doe - 109572, by omega, by omega, by omega, by omega, by omega, by omega⟩
  obtain ⟨q, v, hq, hq', hv, hv', hw⟩ : ∃ q v : ℤ, 0 ≤ q ∧ q < 25 ∧ 0 ≤ v ∧ v ≤ 1460 ∧
      w = 1461 * q + v :=
    ⟨w / 1461, w % 1461, by omega, by omega, by omega, by omega, by omega⟩
  obtain ⟨r, d, hr, hr', hd, hd', hd365, hv⟩ : ∃ r d : ℤ, 0 ≤ r ∧ r < 4 ∧ 0 ≤ d ∧ d ≤ 365 ∧
      (d = 365 → r = 3) ∧ v = 365 * r + d := by
    by_cases h3 : v < 1095
    · exact ⟨v / 365, v % 365, by omega, by omega, by omega, by omega, by omega, by omega⟩
    · exact ⟨3, v - 1095, by omega, by omega, by omega, by omega, by omega, by omega⟩
  have h4 : (100 * c + 4 * q + r) / 4 = 25 * c + q := by omega
  have h100 : (100 * c + 4 * q + r) / 100 = c := by omega
  refine ⟨100 * c + 4 * q + r, d, by omega, by omega, hd, hd', by omega, ?_⟩
  intro hleap
  have hr3 := hd365 hleap
  omega

/-- A day of the year, counted from March on, is a day of one of its months. -/
lemma exists_monthFromMarch {d : ℤ} (h : 0 ≤ d) (h' : d ≤ 365) :
    ∃ mp day : ℤ, 0 ≤ mp ∧ mp < 12 ∧ 1 ≤ day ∧ day ≤ 31 ∧ d = (153 * mp + 2) / 5 + day - 1 ∧
      (mp = 1 ∨ mp = 3 ∨ mp = 6 ∨ mp = 8 → day ≤ 30) ∧ (mp = 11 → day ≤ 29) ∧
      (mp = 11 → day = 29 → d = 365) := by
  refine ⟨(5 * d + 2) / 153, d - (153 * ((5 * d + 2) / 153) + 2) / 5 + 1, by omega, by omega,
    by omega, by omega, by omega, ?_, by omega, by omega⟩
  rintro (hmp | hmp | hmp | hmp) <;> omega

/-- Every day is the day of a date of the calendar. -/
theorem exists_daysFromCivil (days : ℤ) :
    ∃ year month day, ValidDate year month day ∧ daysFromCivil year month day = days := by
  obtain ⟨y, d, hy, hy', hd, hd', hdoe, hleap⟩ := exists_yearOfEra
    (show 0 ≤ (days + 719468) % 146097 by omega) (by omega)
  obtain ⟨mp, day, hmp, hmp', hday, hday', hdoy, hshort, hfebruary, hlast⟩ :=
    exists_monthFromMarch hd hd'
  let yearFromMarch := y + (days + 719468) / 146097 * 400
  let month := if mp < 10 then mp + 3 else mp - 9
  let year := if month ≤ 2 then yearFromMarch + 1 else yearFromMarch
  have hmonth : (month + 9) % 12 = mp ∧ 1 ≤ month ∧ month ≤ 12 := by
    simp only [month]
    split <;> omega
  refine ⟨year, month, day, ⟨hmonth.2.1, hmonth.2.2, hday, ?_⟩, ?_⟩
  · unfold daysInMonth
    split
    · next hmonth2 =>
      have hmp11 : mp = 11 := by omega
      split
      · exact hfebruary hmp11
      · next hnot =>
        by_contra hlong
        have hday29 : day = 29 := by
          have := hfebruary hmp11
          omega
        have hyear : year = yearFromMarch + 1 := if_pos (by omega)
        obtain ⟨hfour, hcentury⟩ := hleap (hlast hmp11 hday29)
        apply hnot
        simp only [isLeapYear, Bool.and_eq_true, Bool.or_eq_true, decide_eq_true_eq, hyear,
          yearFromMarch]
        omega
    · split
      · next hmem =>
        have hsome : month = 4 ∨ month = 6 ∨ month = 9 ∨ month = 11 := by simpa using hmem
        exact hshort (by omega)
      · exact hday'
  · have hfromMarch : (if month ≤ 2 then year - 1 else year) = yearFromMarch := by
      simp only [year]
      split <;> omega
    have hera : yearFromMarch / 400 = (days + 719468) / 146097 := by omega
    have hyoe : yearFromMarch % 400 = y := by omega
    unfold daysFromCivil
    dsimp only
    rw [hfromMarch, hmonth.1, ← hdoy, hera, hyoe]
    omega

/-! ## Times -/

/-- `gmtime` gives back the members that `timegm` was given, for a date and a time of day that there
are in a year that fits an `int`. -/
theorem igniteGmTime_timegm {year month day hour minute second : ℤ}
    (hdate : ValidDate year month day) (htime : ValidTime hour minute second)
    (hyear : -2 ^ 31 ≤ year - 1900 ∧ year - 1900 < 2 ^ 31) :
    igniteGmTime (timegm ⟨year - 1900, month - 1, day, hour, minute, second⟩) =
      some ⟨year - 1900, month - 1, day, hour, minute, second⟩ := by
  obtain ⟨hhour, hhour', hminute, hminute', hsecond, hsecond'⟩ := htime
  have hmonth : (month - 1) % 12 + 1 = month := by
    have := hdate.month_pos
    have := hdate.month_le
    omega
  have hshift : year - 1900 + 1900 + (month - 1) / 12 = year := by
    have := hdate.month_pos
    have := hdate.month_le
    omega
  have hcivil := civilFromDays_daysFromCivil hdate
  unfold igniteGmTime timegm
  dsimp only
  rw [hmonth, hshift]
  generalize daysFromCivil year month day = days at hcivil ⊢
  have hdays : (((days * 24 + hour) * 60 + minute) * 60 + second) / 86400 = days := by omega
  have hrest : (((days * 24 + hour) * 60 + minute) * 60 + second) % 86400 =
      (hour * 60 + minute) * 60 + second := by omega
  have hhour_eq : ((hour * 60 + minute) * 60 + second) / 3600 = hour := by omega
  have hminute_eq : ((hour * 60 + minute) * 60 + second) / 60 % 60 = minute := by omega
  have hsecond_eq : ((hour * 60 + minute) * 60 + second) % 60 = second := by omega
  rw [hdays, hrest, hcivil]
  dsimp only
  rw [if_pos hyear, hhour_eq, hminute_eq, hsecond_eq]

/-- Every second is that of a date and a time of day. -/
theorem exists_timegm (seconds : ℤ) :
    ∃ year month day hour minute second, ValidDate year month day ∧
      ValidTime hour minute second ∧
      timegm ⟨year - 1900, month - 1, day, hour, minute, second⟩ = seconds := by
  obtain ⟨year, month, day, hdate, hdays⟩ := exists_daysFromCivil (seconds / 86400)
  have hmonth := hdate.month_pos
  have hmonth' := hdate.month_le
  have hname : (month - 1) % 12 + 1 = month := by omega
  have hshift : year - 1900 + 1900 + (month - 1) / 12 = year := by omega
  refine ⟨year, month, day, seconds % 86400 / 3600, seconds % 86400 / 60 % 60, seconds % 86400 % 60,
    hdate, ⟨by omega, by omega, by omega, by omega, by omega, by omega⟩, ?_⟩
  unfold timegm
  dsimp only
  rw [hname, hshift, hdays]
  omega

/-! ## Earlier days -/

/-- A year has 365 days at least. -/
lemma daysFromCivil_march_le (year : ℤ) :
    (year - 1) / 400 * 146097 + ((year - 1) % 400 * 365 + (year - 1) % 400 / 4 -
        (year - 1) % 400 / 100) + 365 ≤
      year / 400 * 146097 + (year % 400 * 365 + year % 400 / 4 - year % 400 / 100) := by
  by_cases hcentury : year % 400 = 0
  · have hera : (year - 1) / 400 = year / 400 - 1 := by omega
    have hlast : (year - 1) % 400 = 399 := by omega
    rw [hera, hlast, hcentury]
    omega
  · have hera : (year - 1) / 400 = year / 400 := by omega
    have hlast : (year - 1) % 400 = year % 400 - 1 := by omega
    rw [hera, hlast]
    omega

/-- A day in front of the given one in the same month or an earlier one of the year is earlier. -/
lemma timegm_lt_timegm {year month day month' day' hour minute second : ℤ}
    (hdate : ValidDate year month day) (hmonth' : 0 ≤ month') (hmonth : month' ≤ month)
    (hday : day' < day) (hhour : 0 ≤ hour) (hminute : 0 ≤ minute) (hsecond : 0 ≤ second) :
    timegm ⟨year - 1900, month' - 1, day', 0, 0, 0⟩ <
      timegm ⟨year - 1900, month - 1, day, hour, minute, second⟩ := by
  have hone := hdate.month_pos
  have hle := hdate.month_le
  have hmarch := daysFromCivil_march_le year
  have hdays : daysFromCivil (year + (month' - 1) / 12) ((month' - 1) % 12 + 1) day' <
      daysFromCivil (year + (month - 1) / 12) ((month - 1) % 12 + 1) day := by
    have hname : (month - 1) % 12 + 1 = month := by omega
    have hshift : year + (month - 1) / 12 = year := by omega
    rw [hname, hshift]
    rcases hmonth'.eq_or_lt with rfl | hpos
    · -- December of the year before
      have hname' : ((0 : ℤ) - 1) % 12 + 1 = 12 := rfl
      have hshift' : year + (0 - 1) / 12 = year - 1 := rfl
      rw [hname', hshift']
      unfold daysFromCivil
      dsimp only
      split <;> omega
    · have hname' : (month' - 1) % 12 + 1 = month' := by omega
      have hshift' : year + (month' - 1) / 12 = year := by omega
      rw [hname', hshift']
      unfold daysFromCivil
      dsimp only
      split <;> split <;> omega
  unfold timegm
  dsimp only
  rw [Int.sub_add_cancel]
  omega

/-- The day in front of the month in front of a year is the last one of a November. -/
lemma timegm_november (year : ℤ) :
    timegm ⟨year - 1900, -1, 0, 0, 0, 0⟩ = timegm ⟨year - 1 - 1900, 11 - 1, 30, 0, 0, 0⟩ := by
  have hdecember : daysFromCivil (year - 1) 12 0 = daysFromCivil (year - 1) 11 30 := by
    unfold daysFromCivil
    norm_num
  have hshift : year - 1900 + 1900 + -1 / 12 = year - 1 := by omega
  have hshift' : year - 1 - 1900 + 1900 + (11 - 1) / 12 = year - 1 := by omega
  unfold timegm
  dsimp only
  have hname : (-1 : ℤ) % 12 + 1 = 12 := rfl
  have hname' : ((11 : ℤ) - 1) % 12 + 1 = 11 := rfl
  rw [hshift, hshift', hname, hname', hdecember]

/-- The seconds of a midnight are those of its day. -/
lemma timegm_midnight {month : ℤ} (hmonth : 1 ≤ month) (hmonth' : month ≤ 12) (year day : ℤ) :
    timegm ⟨year - 1900, month - 1, day, 0, 0, 0⟩ = daysFromCivil year month day * 86400 := by
  have hname : (month - 1) % 12 + 1 = month := by omega
  have hshift : year - 1900 + 1900 + (month - 1) / 12 = year := by omega
  unfold timegm
  dsimp only
  rw [hname, hshift]
  omega

/-- The days of a date move on with its year. -/
lemma daysFromCivil_strictMono (month day : ℤ) :
    StrictMono fun year => daysFromCivil year month day := by
  apply strictMono_int_of_lt_succ
  intro year
  have hmarch := daysFromCivil_march_le year
  have hmarch' := daysFromCivil_march_le (year + 1)
  rw [Int.add_sub_cancel] at hmarch'
  unfold daysFromCivil
  dsimp only
  split
  · rw [Int.add_sub_cancel]
    omega
  · omega

example : daysFromCivil 1970 1 1 = 0 ∧ daysFromCivil 2000 3 1 = daysFromCivil 2000 2 29 + 1 := by
  decide

end TimestreamOdbc
