import Mathlib.Data.Int.Init
import ClusterConsole.Time.Calendar

/-! # The calendar day by day

Counting days and naming them undo each other. What a count of days means is said by the day after: one day more leads
from each date to the next one on the calendar, and 1970-01-01 is day zero. -/

namespace ClusterConsole.Date

/-- The next date on the calendar. -/
def tomorrow (d : Date) : Date :=
  if d.day < monthLength d.year d.month then ⟨d.year, d.month, d.day + 1⟩
  else if d.month < 12 then ⟨d.year, d.month + 1, 1⟩
  else ⟨d.year + 1, 1, 1⟩

theorem isLeap_iff {year : Int} : isLeap year = true ↔ year % 4 = 0 ∧ (year % 100 ≠ 0 ∨ year % 400 = 0) := by
  simp [isLeap]

theorem monthLength_cases (year : Int) {month : Int} (hfirst : 1 ≤ month) (hlast : month ≤ 12) :
    month = 2 ∧ isLeap year = true ∧ monthLength year month = 29 ∨
      month = 2 ∧ isLeap year = false ∧ monthLength year month = 28 ∨
      (month = 4 ∨ month = 6 ∨ month = 9 ∨ month = 11) ∧ monthLength year month = 30 ∨
      (month = 1 ∨ month = 3 ∨ month = 5 ∨ month = 7 ∨ month = 8 ∨ month = 10 ∨ month = 12) ∧
        monthLength year month = 31 := by
  unfold monthLength
  cases isLeap year <;> simp <;> omega

/-- The days before a year that begins in March, but for a constant. -/
def daysBefore (year : Int) : Int :=
  365 * year + year / 4 - year / 100 + year / 400

theorem toDays_eq (d : Date) : d.toDays =
    daysBefore (if d.month ≤ 2 then d.year - 1 else d.year) + (153 * ((d.month + 9) % 12) + 2) / 5 + d.day - 719469 := by
  unfold toDays daysBefore
  dsimp only
  generalize (if d.month ≤ 2 then d.year - 1 else d.year) = year
  omega

theorem toDays_epoch : toDays ⟨1970, 1, 1⟩ = 0 := rfl

theorem daysBefore_succ (year : Int) :
    daysBefore year = daysBefore (year - 1) + if isLeap year = true then 366 else 365 := by
  have hleap : isLeap year = true ↔ _ := isLeap_iff
  unfold daysBefore
  split
  · rename_i h
    have := hleap.mp h
    omega
  · rename_i h
    have := mt hleap.mpr h
    omega

theorem toDays_tomorrow {d : Date} (h : d.Exists) : d.tomorrow.toDays = d.toDays + 1 := by
  obtain ⟨year, month, day⟩ := d
  obtain ⟨hfirst, hlast, hday, hlength⟩ := h
  dsimp only at hfirst hlast hday hlength
  have hlengths := monthLength_cases year hfirst hlast
  unfold tomorrow
  dsimp only
  split
  · rw [toDays_eq, toDays_eq]
    dsimp only
    omega
  split
  · rw [toDays_eq, toDays_eq]
    dsimp only
    by_cases hfeb : month = 2
    · -- the only month whose end is the end of a year that begins in March
      subst hfeb
      have hyear := daysBefore_succ year
      have hfebruary : monthLength year 2 = if isLeap year = true then 29 else 28 := rfl
      rw [if_neg (by decide), if_pos (by decide)]
      split at hyear
      · rename_i hleap
        rw [if_pos hleap] at hfebruary
        omega
      · rename_i hleap
        rw [if_neg hleap] at hfebruary
        omega
    · by_cases hjan : month = 1
      · subst hjan
        rw [if_pos (by decide), if_pos (by decide)]
        omega
      · rw [if_neg (by omega), if_neg (by omega)]
        omega
  -- The last day of December, after which the year begins anew.
  · obtain rfl : month = 12 := by omega
    rw [toDays_eq, toDays_eq]
    dsimp only
    rw [if_pos (by decide), if_neg (by decide), Int.add_sub_cancel]
    omega

/-- The year is found from the day within an era of 400 years, once the days are taken off that leap years have added. An
    era has four centuries, a century 25 times four years, and only the last century ends with a leap day. -/
theorem yearOfEra_eq (century four single dayOfYear day : Int) (hcentury : 0 ≤ century ∧ century ≤ 3)
    (hfour : 0 ≤ four ∧ four ≤ 24) (hsingle : 0 ≤ single ∧ single ≤ 3) (hday : 0 ≤ dayOfYear ∧ dayOfYear ≤ 365)
    (hleap : dayOfYear = 365 → single = 3 ∧ (four = 24 → century = 3))
    (h : day = 36524 * century + 1461 * four + 365 * single + dayOfYear) :
    0 ≤ day ∧ day < 146097 ∧
      (day - day / 1460 + day / 36524 - day / 146096) / 365 = 100 * century + 4 * four + single := by
  have hcenturies : day / 36524 - day / 146096 = century := by
    rcases Int.lt_or_eq_of_le (show day ≤ 36524 * century + 36524 by omega) with hlt | heq
    · have : day / 36524 = century := by omega
      omega
    · obtain rfl : century = 3 := by omega
      omega
  refine ⟨by omega, by omega, ?_⟩
  have hquarters : day = 1460 * (25 * century + four) + (24 * century + four + 365 * single + dayOfYear) := by omega
  by_cases hlt : 24 * century + four + 365 * single + dayOfYear < 1460
  · have : day / 1460 = 25 * century + four := by omega
    omega
  · have : day / 1460 = 25 * century + four + 1 := by omega
    omega

/-- Days and the days of an era are found from each other. -/
theorem era_eq (era : Int) {day : Int} (hlow : 0 ≤ day) (hhigh : day < 146097) :
    (era * 146097 + day - 719468 + 719468) / 146097 = era ∧ (era * 146097 + day - 719468 + 719468) % 146097 = day := by
  omega

/-- A year of an era by its century, the four years of that century it falls in, and its place among them. -/
theorem year_parts {year : Int} (h : 0 ≤ year ∧ year ≤ 399) :
    (0 ≤ year / 100 ∧ year / 100 ≤ 3) ∧ (0 ≤ year % 100 / 4 ∧ year % 100 / 4 ≤ 24) ∧ (0 ≤ year % 4 ∧ year % 4 ≤ 3) ∧
      year * 365 + year / 4 - year / 100 = 36524 * (year / 100) + 1461 * (year % 100 / 4) + 365 * (year % 4) ∧
      100 * (year / 100) + 4 * (year % 100 / 4) + year % 4 = year := by
  omega

/-- The date of a day that is given by its era, its year of that era and its day of that year, counted from March. -/
theorem ofDays_eq (era : Int) {year day : Int} (hyear : 0 ≤ year ∧ year ≤ 399) (hday : 0 ≤ day ∧ day ≤ 365)
    (hleap : day = 365 → year % 4 = 3 ∧ (year % 100 / 4 = 24 → year / 100 = 3)) {month : Int}
    (hmonth : (5 * day + 2) / 153 = month) :
    ofDays (era * 146097 + (year * 365 + year / 4 - year / 100 + day) - 719468) =
      ⟨if (if month < 10 then month + 3 else month - 9) ≤ 2 then year + era * 400 + 1 else year + era * 400,
        if month < 10 then month + 3 else month - 9, day - (153 * month + 2) / 5 + 1⟩ := by
  obtain ⟨hcentury, hfour, hsingle, hbefore, hparts⟩ := year_parts hyear
  obtain ⟨hlow, hhigh, hyearOfEra⟩ := yearOfEra_eq (year / 100) (year % 100 / 4) (year % 4) day _ hcentury hfour hsingle
    hday hleap rfl
  rw [← hbefore] at hlow hhigh hyearOfEra
  rw [hparts] at hyearOfEra
  obtain ⟨hera, hdayOfEra⟩ := era_eq era hlow hhigh
  have hdayOfYear : year * 365 + year / 4 - year / 100 + day - (365 * year + year / 4 - year / 100) = day := by
    rw [Int.mul_comm 365 year, Int.add_comm, Int.add_sub_cancel]
  unfold ofDays
  dsimp only
  rw [hera, hdayOfEra, hyearOfEra, hdayOfYear, hmonth]

/-- Only a leap year, counted from March, has a day 365. -/
theorem leap_of_lastDay {year month day : Int} (h : Exists ⟨year, month, day⟩)
    (hlast : (153 * ((month + 9) % 12) + 2) / 5 + day - 1 = 365) : month = 2 ∧ isLeap year = true := by
  obtain ⟨hfirst, hmonth, hday, hlength⟩ := h
  dsimp only at hfirst hmonth hday hlength
  rcases monthLength_cases year hfirst hmonth with
    ⟨rfl, hyear, -⟩ | ⟨rfl, -, hfeb⟩ | ⟨hmonths, hthirty⟩ | ⟨hmonths, hlong⟩
  · exact ⟨rfl, hyear⟩
  · omega
  · omega
  · omega

theorem ofDays_toDays {d : Date} (h : d.Exists) : ofDays d.toDays = d := by
  obtain ⟨year, month, day⟩ := d
  have hlastDay := leap_of_lastDay h
  obtain ⟨hfirst, hlast, hday, hlength⟩ := h
  dsimp only at hfirst hlast hday hlength
  have hlengths := monthLength_cases year hfirst hlast
  obtain ⟨marchYear, hmarchYear⟩ : ∃ y, (if month ≤ 2 then year - 1 else year) = y := ⟨_, rfl⟩
  obtain ⟨marchMonth, hmarchMonth⟩ : ∃ m, (month + 9) % 12 = m := ⟨_, rfl⟩
  obtain ⟨dayOfYear, hdayOfYear⟩ : ∃ n, (153 * marchMonth + 2) / 5 + day - 1 = n := ⟨_, rfl⟩
  rw [hmarchMonth, hdayOfYear] at hlastDay
  have hleap : dayOfYear = 365 →
      marchYear % 400 % 4 = 3 ∧ (marchYear % 400 % 100 / 4 = 24 → marchYear % 400 / 100 = 3) := by
    intro h365
    obtain ⟨rfl, hyear⟩ := hlastDay h365
    rw [if_pos (by decide)] at hmarchYear
    have := isLeap_iff.mp hyear
    omega
  have hback := ofDays_eq (marchYear / 400) (show 0 ≤ marchYear % 400 ∧ marchYear % 400 ≤ 399 by omega)
    (show 0 ≤ dayOfYear ∧ dayOfYear ≤ 365 by omega) hleap (show (5 * dayOfYear + 2) / 153 = marchMonth by omega)
  unfold toDays
  dsimp only
  rw [hmarchYear, hmarchMonth, hdayOfYear, hback, mk.injEq]
  refine ⟨?_, ?_, ?_⟩
  · split at hmarchYear <;> split <;> omega
  · split <;> omega
  · omega

theorem monthLength_pos (year month : Int) : 1 ≤ monthLength year month := by
  unfold monthLength
  split
  · split <;> decide
  · split <;> decide

theorem monthLength_le (year month : Int) : monthLength year month ≤ 31 := by
  unfold monthLength
  split
  · split <;> decide
  · split <;> decide

theorem exists_tomorrow {d : Date} (h : d.Exists) : d.tomorrow.Exists := by
  obtain ⟨hfirst, hlast, hday, hlength⟩ := h
  unfold tomorrow
  split
  · rename_i hlt
    exact ⟨hfirst, hlast, by dsimp only; omega, hlt⟩
  · split
    · exact ⟨by dsimp only; omega, by dsimp only; omega, Int.le_refl 1, monthLength_pos _ _⟩
    · exact ⟨Int.le_refl 1, (by decide : (1 : Int) ≤ 12), Int.le_refl 1, monthLength_pos _ _⟩

theorem exists_tomorrow_eq {d : Date} (h : d.Exists) : ∃ e : Date, e.Exists ∧ e.tomorrow = d := by
  obtain ⟨year, month, day⟩ := d
  obtain ⟨hfirst, hlast, hday, hlength⟩ := h
  dsimp only at hfirst hlast hday hlength
  by_cases hwithin : 1 < day
  · refine ⟨⟨year, month, day - 1⟩, ⟨hfirst, hlast, by dsimp only; omega, by dsimp only; omega⟩, ?_⟩
    rw [tomorrow, if_pos (by dsimp only; omega)]
    simp
  · obtain rfl : day = 1 := by omega
    by_cases hmonth : 1 < month
    · refine ⟨⟨year, month - 1, monthLength year (month - 1)⟩,
        ⟨by dsimp only; omega, by dsimp only; omega, monthLength_pos _ _, Int.le_refl _⟩, ?_⟩
      rw [tomorrow, if_neg (Int.lt_irrefl _), if_pos (by dsimp only; omega)]
      simp
    · obtain rfl : month = 1 := by omega
      have hdecember : Exists ⟨year - 1, 12, 31⟩ :=
        ⟨(by decide : (1 : Int) ≤ 12), Int.le_refl 12, (by decide : (1 : Int) ≤ 31), Int.le_refl 31⟩
      refine ⟨⟨year - 1, 12, 31⟩, hdecember, ?_⟩
      have hlastDay : monthLength (year - 1) 12 = 31 := rfl
      simp [tomorrow, hlastDay]

/-- Every day has a date. -/
theorem exists_toDays_eq (days : Int) : ∃ d : Date, d.Exists ∧ d.toDays = days := by
  induction days with
  | zero => exact ⟨⟨1970, 1, 1⟩, by decide, toDays_epoch⟩
  | succ n ih =>
    obtain ⟨d, hd, hdays⟩ := ih
    exact ⟨d.tomorrow, exists_tomorrow hd, by rw [toDays_tomorrow hd, hdays]⟩
  | pred n ih =>
    obtain ⟨d, hd, hdays⟩ := ih
    obtain ⟨e, he, rfl⟩ := exists_tomorrow_eq hd
    rw [toDays_tomorrow he] at hdays
    exact ⟨e, he, by omega⟩

theorem exists_ofDays (days : Int) : (ofDays days).Exists := by
  obtain ⟨d, hd, rfl⟩ := exists_toDays_eq days
  rwa [ofDays_toDays hd]

theorem toDays_ofDays (days : Int) : (ofDays days).toDays = days := by
  obtain ⟨d, hd, rfl⟩ := exists_toDays_eq days
  rw [ofDays_toDays hd]

/-- Days are counted and named as on the calendar: 1970-01-01 is day zero, the next date is the next day, and counting and
    naming undo each other. -/
structure Calendar (count : Date → Int) (date : Int → Date) : Prop where
  epoch : count ⟨1970, 1, 1⟩ = 0
  tomorrow : ∀ d, d.Exists → count d.tomorrow = count d + 1
  date_exists : ∀ days, (date days).Exists
  count_date : ∀ days, count (date days) = days
  date_count : ∀ d, d.Exists → date (count d) = d

theorem calendar : Calendar toDays ofDays :=
  ⟨toDays_epoch, fun _ => toDays_tomorrow, exists_ofDays, toDays_ofDays, fun _ => ofDays_toDays⟩

theorem eq_of_toDays_eq {d e : Date} (hd : d.Exists) (he : e.Exists) (h : d.toDays = e.toDays) : d = e := by
  rw [← ofDays_toDays hd, ← ofDays_toDays he, h]

end ClusterConsole.Date
