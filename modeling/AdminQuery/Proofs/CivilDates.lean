import AdminQuery.Calendar.Date
import Mathlib.Order.Monotone.Basic
import Mathlib.Algebra.Order.Ring.Int
import Mathlib.Algebra.Order.SuccPred
import Mathlib.Tactic.IntervalCases

/-!
# Dates of the calendar and their numbers

Days are numbered without gaps, so that a date is known by its year, month and day, and the day after it in
the calendar is the one with the next number.

* `Civil.daysBeforeMonth_succ`, `Civil.daysBeforeYear_succ`: months and years follow one another
* `Date.numberOfCivil_civil`, `Date.isDay_civil`: **year, month and day of a date are a day of the calendar,
  which has the number of the date**
* `Date.civil_numberOfCivil`: **every day of the calendar is the day of its number**
* `Civil.next`, `Date.civil_addDays_one`: the next day in the calendar is the next day by number
* `Civil.weekday`, `Date.weekday_civil`: Gauss's rule for the day of the week
-/

namespace AdminQuery

namespace Civil

variable {c d : Civil} {year : Int} {month : Nat}

/-! ### Months -/

/-- The number of days of a year. -/
def daysInYear (year : Int) : Nat :=
  if isLeapYear year then 366 else 365

theorem isLeapYear_iff : isLeapYear year = true ↔ year % 4 = 0 ∧ (year % 100 ≠ 0 ∨ year % 400 = 0) := by
  simp [isLeapYear]

/-- A month that has days is one of the twelve. -/
theorem month_bounds {day : Nat} (h : day < daysInMonth year month) : 1 ≤ month ∧ month ≤ 12 := by
  by_contra hout
  have hzero : daysInMonth year month = 0 := by
    rw [daysInMonth]
    all_goals omega
  omega

theorem daysInMonth_le (year : Int) (month : Nat) : daysInMonth year month ≤ 31 := by
  rw [daysInMonth.eq_def]
  split <;> try split
  all_goals decide

theorem daysInMonth_pos (hfirst : 1 ≤ month) (hlast : month ≤ 12) : 0 < daysInMonth year month := by
  interval_cases month <;> simp only [daysInMonth] <;> try split
  all_goals decide

/-- The days in front of a month are those in front of the month before it, and that month's own. -/
theorem daysBeforeMonth_succ (year : Int) (hmonth : 1 ≤ month) :
    daysBeforeMonth year (month + 1) = daysBeforeMonth year month + daysInMonth year month := by
  obtain ⟨before, rfl⟩ := Nat.exists_eq_add_of_le' hmonth
  simp [daysBeforeMonth, List.range_succ]

theorem daysBeforeMonth_one (year : Int) : daysBeforeMonth year 1 = 0 := rfl

/-- The twelve months are the year. -/
theorem daysBeforeMonth_thirteen (year : Int) : daysBeforeMonth year 13 = daysInYear year := by
  rw [daysInYear]
  simp only [daysBeforeMonth, daysInMonth, List.range_succ]
  split <;> simp_all

/-- A month ends before a later one starts. -/
theorem daysBeforeMonth_add_le {later : Nat} (year : Int) (hmonth : 1 ≤ month) (h : month < later) :
    daysBeforeMonth year month + daysInMonth year month ≤ daysBeforeMonth year later := by
  induction later, h using Nat.le_induction with
  | base => rw [daysBeforeMonth_succ year hmonth]
  | succ later hlt ih =>
    rw [daysBeforeMonth_succ year (by omega)]
    omega

/-! ### Years -/

theorem daysBeforeYear_succ (year : Int) :
    daysBeforeYear (year + 1) = daysBeforeYear year + daysInYear year := by
  have hleap := @isLeapYear_iff year
  rw [daysBeforeYear, daysBeforeYear, daysInYear]
  split
  · rename_i hyear
    obtain ⟨hfour, hcentury⟩ := hleap.1 hyear
    omega
  · rename_i hyear
    have hcommon := mt hleap.2 hyear
    omega

theorem daysBeforeYear_mono {later : Int} (h : year ≤ later) :
    daysBeforeYear year ≤ daysBeforeYear later := by
  have hmono : Monotone daysBeforeYear := monotone_int_of_le_succ fun year => by
    rw [daysBeforeYear_succ]
    omega
  exact hmono h

/-! ### Days -/

theorem isDay_iff : c.isDay = true ↔ 1 ≤ c.day ∧ c.day ≤ daysInMonth c.year c.month := by
  simp [isDay]

/-- The number of a day in its year, from 0. -/
def dayOfYear (c : Civil) : Nat :=
  daysBeforeMonth c.year c.month + c.day - 1

theorem dayOfYear_mk (year : Int) (month day : Nat) :
    dayOfYear ⟨year, month, day⟩ = daysBeforeMonth year month + day - 1 := rfl

theorem month_bounds_of_isDay (h : c.isDay = true) : 1 ≤ c.month ∧ c.month ≤ 12 := by
  obtain ⟨hone, hday⟩ := isDay_iff.1 h
  exact month_bounds (show c.day - 1 < daysInMonth c.year c.month by omega)

theorem dayOfYear_lt (h : c.isDay = true) : c.dayOfYear < daysInYear c.year := by
  obtain ⟨hone, hday⟩ := isDay_iff.1 h
  obtain ⟨hfirst, hlast⟩ := month_bounds_of_isDay h
  have hmonth := daysBeforeMonth_add_le c.year hfirst (show c.month < 13 by omega)
  rw [daysBeforeMonth_thirteen] at hmonth
  rw [dayOfYear]
  omega

/-- Days of one year with the same number in it are the same. -/
theorem eq_of_dayOfYear_eq (hc : c.isDay = true) (hd : d.isDay = true) (hyear : c.year = d.year)
    (h : c.dayOfYear = d.dayOfYear) : c = d := by
  have hapart : ∀ {c d : Civil}, c.isDay = true → d.isDay = true → c.year = d.year →
      c.month < d.month → c.dayOfYear < d.dayOfYear := by
    intro c d hc hd hyear hlt
    obtain ⟨hone, hday⟩ := isDay_iff.1 hc
    have hmonth := daysBeforeMonth_add_le c.year (month_bounds_of_isDay hc).1 hlt
    have hone' := (isDay_iff.1 hd).1
    rw [dayOfYear, dayOfYear, ← hyear]
    omega
  have hmonth : c.month = d.month := by
    rcases Nat.lt_trichotomy c.month d.month with hlt | heq | hgt
    · exact absurd h (hapart hc hd hyear hlt).ne
    · exact heq
    · exact absurd h (hapart hd hc hyear.symm hgt).ne'
  have hday : c.day = d.day := by
    have hone := (isDay_iff.1 hc).1
    have hone' := (isDay_iff.1 hd).1
    rw [dayOfYear, dayOfYear, hyear, hmonth] at h
    omega
  cases c
  cases d
  simp_all

/-! ### The next day -/

/-- The next day in the calendar: in the same month, else the first of the next month, else of the next
year. -/
def next (c : Civil) : Civil :=
  if c.day < daysInMonth c.year c.month then ⟨c.year, c.month, c.day + 1⟩
  else if c.month < 12 then ⟨c.year, c.month + 1, 1⟩
  else ⟨c.year + 1, 1, 1⟩

theorem next_mk (year : Int) (month day : Nat) :
    next ⟨year, month, day⟩ =
      if day < daysInMonth year month then ⟨year, month, day + 1⟩
      else if month < 12 then ⟨year, month + 1, 1⟩
      else ⟨year + 1, 1, 1⟩ := rfl

/-! ### The day of the week -/

/-- Gauss's rule for the day of the week, Monday being 0. -/
def weekday (c : Civil) : Int :=
  (5 * ((c.year - 1) % 4) + 4 * ((c.year - 1) % 100) + 6 * ((c.year - 1) % 400) + c.dayOfYear) % 7

end Civil

namespace Date

open Civil

variable {c d : Civil} {date : Date}

/-! ### Numbers of days -/

theorem eq_iff {other : Date} : date = other ↔ date.dayNumber = other.dayNumber := by
  cases date
  cases other
  simp

theorem numberOfCivil_eq (h : c.isDay = true) :
    numberOfCivil c = daysBeforeYear c.year + c.dayOfYear - epochOffset := by
  have hone := (isDay_iff.1 h).1
  rw [numberOfCivil, dayOfYear]
  omega

/-- A year ends before a later one starts. -/
theorem numberOfCivil_lt_of_year_lt (hc : c.isDay = true) (hd : d.isDay = true)
    (h : c.year < d.year) : numberOfCivil c < numberOfCivil d := by
  have hyear : daysBeforeYear (c.year + 1) ≤ daysBeforeYear d.year := daysBeforeYear_mono h
  have hday := dayOfYear_lt hc
  rw [daysBeforeYear_succ] at hyear
  rw [numberOfCivil_eq hc, numberOfCivil_eq hd]
  omega

/-- **Different days have different numbers.** -/
theorem eq_of_numberOfCivil_eq (hc : c.isDay = true) (hd : d.isDay = true)
    (h : numberOfCivil c = numberOfCivil d) : c = d := by
  have hyear : c.year = d.year := by
    rcases Int.lt_trichotomy c.year d.year with hlt | heq | hgt
    · exact absurd h (numberOfCivil_lt_of_year_lt hc hd hlt).ne
    · exact heq
    · exact absurd h (numberOfCivil_lt_of_year_lt hd hc hgt).ne'
  refine eq_of_dayOfYear_eq hc hd hyear ?_
  rw [numberOfCivil_eq hc, numberOfCivil_eq hd, hyear] at h
  omega

/-! ### The day of a number -/

/-- A day of the year is found in its month, looking through the months one after another. -/
theorem monthAndDay_spec (year : Int) : ∀ (fuel month dayOfYear : Nat), 1 ≤ month →
    daysBeforeMonth year month + dayOfYear < daysBeforeMonth year (month + fuel) →
    ∃ m d, monthAndDay year fuel month dayOfYear = (m, d) ∧ 1 ≤ d ∧ d ≤ daysInMonth year m ∧
      daysBeforeMonth year m + d - 1 = daysBeforeMonth year month + dayOfYear := by
  intro fuel
  induction fuel with
  | zero =>
    intro month dayOfYear _ h
    exact absurd h (by simp)
  | succ fuel ih =>
    intro month dayOfYear hmonth h
    rw [monthAndDay]
    split
    · rename_i hlt
      exact ⟨month, dayOfYear + 1, rfl, by omega, hlt, by omega⟩
    · -- The months from the next one on are looked through for the days that are left.
      rename_i hge
      have hnext := daysBeforeMonth_succ year hmonth
      obtain ⟨m, d, hfound, hone, hday, hnumber⟩ := ih (month + 1) (dayOfYear - daysInMonth year month)
        (by omega) (by rw [hnext, Nat.add_right_comm month 1 fuel, Nat.add_assoc month fuel 1]; omega)
      exact ⟨m, d, hfound, hone, hday, by omega⟩

/-- The days of whole cycles of 400, 100, 4 and 1 years. -/
theorem daysBeforeYear_of_cycles (cycles : Int) {centuries leapCycles years : Nat}
    (hcenturies : centuries ≤ 3) (hleapCycles : leapCycles ≤ 24) (hyears : years ≤ 3) :
    daysBeforeYear (400 * cycles + 100 * centuries + 4 * leapCycles + years + 1) =
      146097 * cycles + 36524 * centuries + 1461 * leapCycles + 365 * years := by
  rw [daysBeforeYear]
  omega

/-- A year has a day with the number 365 when it ends a cycle of four years, unless it ends a century that
does not end a cycle of 400. -/
theorem daysInYear_of_cycles (cycles : Int) {centuries leapCycles years dayOfYear : Nat}
    (hleapCycles : leapCycles ≤ 24) (hday : dayOfYear ≤ 365)
    (hlast : dayOfYear = 365 → years = 3 ∧ (leapCycles = 24 → centuries = 3)) :
    dayOfYear < daysInYear (400 * cycles + 100 * centuries + 4 * leapCycles + years + 1) := by
  rw [daysInYear]
  split
  · omega
  · rename_i hyear
    have hcommon := mt isLeapYear_iff.2 hyear
    omega

/-- The year of a date, and the number of the day in it. -/
theorem exists_civil_eq (date : Date) : ∃ (year : Int) (dayOfYear : Nat),
    date.dayNumber = daysBeforeYear year + dayOfYear - epochOffset ∧ dayOfYear < daysInYear year ∧
      date.civil = ⟨year, (monthAndDay year 12 1 dayOfYear).1, (monthAndDay year 12 1 dayOfYear).2⟩ := by
  refine ⟨_, _, ?_, ?_, rfl⟩
  · rw [daysBeforeYear_of_cycles _ (by omega) (by omega) (by omega)]
    omega
  · exact daysInYear_of_cycles _ (by omega) (by omega) (by omega)

/-- **Year, month and day of a date are a day of the calendar, which has the number of the date.** -/
theorem civil_spec (date : Date) : date.civil.isDay = true ∧ numberOfCivil date.civil = date.dayNumber := by
  obtain ⟨year, dayOfYear, hnumber, hyear, hcivil⟩ := exists_civil_eq date
  obtain ⟨month, day, hfound, hone, hday, hdayOfYear⟩ := monthAndDay_spec year 12 1 dayOfYear (by omega) (by
    rw [daysBeforeMonth_one, daysBeforeMonth_thirteen]
    omega)
  rw [hfound] at hcivil
  have hisDay : date.civil.isDay = true := by
    rw [hcivil]
    exact isDay_iff.2 ⟨hone, hday⟩
  refine ⟨hisDay, ?_⟩
  rw [numberOfCivil_eq hisDay, hcivil, dayOfYear_mk, hdayOfYear, daysBeforeMonth_one, hnumber]
  simp

theorem isDay_civil (date : Date) : date.civil.isDay = true :=
  date.civil_spec.1

theorem numberOfCivil_civil (date : Date) : numberOfCivil date.civil = date.dayNumber :=
  date.civil_spec.2

/-- **Every day of the calendar is the day of its number.** -/
theorem civil_numberOfCivil (h : c.isDay = true) : (⟨numberOfCivil c⟩ : Date).civil = c :=
  eq_of_numberOfCivil_eq (isDay_civil _) h (numberOfCivil_civil _)

theorem civil_eq_iff : date.civil = c ↔ c.isDay = true ∧ date.dayNumber = numberOfCivil c := by
  constructor
  · rintro rfl
    exact ⟨date.isDay_civil, date.numberOfCivil_civil.symm⟩
  · rintro ⟨hc, hnumber⟩
    rw [← civil_numberOfCivil hc, ← hnumber]

theorem civil_injective : Function.Injective civil := by
  intro date other h
  rw [eq_iff, ← date.numberOfCivil_civil, h, other.numberOfCivil_civil]

/-! ### The next day -/

theorem numberOfCivil_mk (year : Int) (month day : Nat) :
    numberOfCivil ⟨year, month, day⟩ =
      daysBeforeYear year + daysBeforeMonth year month + day - 1 - epochOffset := rfl

/-- The next day of a day of the calendar is one too, and has the next number. -/
theorem next_spec (h : c.isDay = true) :
    c.next.isDay = true ∧ numberOfCivil c.next = numberOfCivil c + 1 := by
  obtain ⟨year, month, day⟩ := c
  obtain ⟨hone, hday⟩ : 1 ≤ day ∧ day ≤ daysInMonth year month := isDay_iff.1 h
  obtain ⟨hfirst, hlast⟩ : 1 ≤ month ∧ month ≤ 12 := month_bounds_of_isDay h
  have hmonth := daysBeforeMonth_succ year hfirst
  rw [next_mk]
  split
  · rename_i hlt
    refine ⟨isDay_iff.2 ⟨Nat.le_add_left 1 day, hlt⟩, ?_⟩
    rw [numberOfCivil_mk, numberOfCivil_mk]
    omega
  rename_i hend
  have hfull : day = daysInMonth year month := Nat.le_antisymm hday (Nat.le_of_not_lt hend)
  split
  · rename_i hlt
    have hnext : 0 < daysInMonth year (month + 1) := daysInMonth_pos (by omega) hlt
    refine ⟨isDay_iff.2 ⟨Nat.le_refl 1, hnext⟩, ?_⟩
    rw [numberOfCivil_mk, numberOfCivil_mk]
    omega
  · rename_i hyear
    have htwelve : month = 12 := Nat.le_antisymm hlast (Nat.le_of_not_lt hyear)
    have hwhole : daysBeforeMonth year (12 + 1) = daysInYear year := daysBeforeMonth_thirteen year
    rw [htwelve] at hmonth hfull
    refine ⟨isDay_iff.2 ⟨Nat.le_refl 1, daysInMonth_pos (Nat.le_refl 1) (Nat.le_add_left 1 11)⟩, ?_⟩
    rw [numberOfCivil_mk, numberOfCivil_mk, htwelve, daysBeforeYear_succ, daysBeforeMonth_one]
    omega

/-- **The date with the next number is the next day in the calendar.** -/
theorem civil_addDays_one (date : Date) : (date.addDays 1).civil = date.civil.next := by
  obtain ⟨hnext, hnumber⟩ := next_spec date.isDay_civil
  rw [civil_eq_iff]
  refine ⟨hnext, ?_⟩
  rw [hnumber, numberOfCivil_civil]
  rfl

theorem civil_addDays (date : Date) (days : Nat) :
    (date.addDays days).civil = Civil.next^[days] date.civil := by
  induction days with
  | zero => simp [addDays]
  | succ days ih =>
    rw [Function.iterate_succ_apply', ← ih, ← civil_addDays_one]
    simp [addDays, Int.add_assoc]

/-! ### The day of the week -/

/-- **Days since Monday by number are Gauss's day of the week.** -/
theorem weekday_civil (date : Date) : date.civil.weekday = date.daysSinceMonday := by
  have hnumber := numberOfCivil_eq date.isDay_civil
  rw [numberOfCivil_civil, daysBeforeYear, epochOffset] at hnumber
  rw [weekday, daysSinceMonday, hnumber]
  omega

end Date

end AdminQuery
