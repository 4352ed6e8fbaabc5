/-!
# Calendar dates

Dates of the proleptic Gregorian calendar, counted in days, with a year zero and years below it.

* `Civil`: year, month and day
* `Date`: a date as the number of days since 1970-01-01
* `Date.ofCivil?`: the date of a year, month and day, when there is one in the covered years
* `Date.civil`: year, month and day of a date
* `Date.IsCovered`, `Date.addDays?`: the dates of the covered years, and steps that stay among them
* `Date.weekStart`, `Date.weekStart?`: the Monday on or before a date, and the same as such a step
-/

namespace AdminQuery

/-- A year, a month from 1 and a day of the month from 1. -/
structure Civil where
  year : Int
  month : Nat
  day : Nat
  deriving DecidableEq, Repr

namespace Civil

/-- Every fourth year is a leap year, centuries only if divisible by 400. -/
def isLeapYear (year : Int) : Bool :=
  year % 4 == 0 && (year % 100 != 0 || year % 400 == 0)

/-- The number of days of a month; 0 for a number that is no month. -/
def daysInMonth (year : Int) : Nat → Nat
  | 1 => 31
  | 2 => if isLeapYear year then 29 else 28
  | 3 => 31
  | 4 => 30
  | 5 => 31
  | 6 => 30
  | 7 => 31
  | 8 => 31
  | 9 => 30
  | 10 => 31
  | 11 => 30
  | 12 => 31
  | _ => 0

/-- The number of days of the year in front of a month. -/
def daysBeforeMonth (year : Int) (month : Nat) : Nat :=
  ((List.range (month - 1)).map fun i => daysInMonth year (i + 1)).foldl (· + ·) 0

/-- The number of days from 0001-01-01 to the first day of a year. -/
def daysBeforeYear (year : Int) : Int :=
  365 * (year - 1) + (year - 1) / 4 - (year - 1) / 100 + (year - 1) / 400

/-- A day that the calendar has. -/
def isDay (c : Civil) : Bool :=
  1 ≤ c.day && c.day ≤ daysInMonth c.year c.month

/-- The month and day of a day counted from 0 in its year, looking from `month` on. -/
def monthAndDay (year : Int) : (fuel month dayOfYear : Nat) → Nat × Nat
  | 0, month, dayOfYear => (month, dayOfYear + 1)
  | fuel + 1, month, dayOfYear =>
    if dayOfYear < daysInMonth year month then (month, dayOfYear + 1)
    else monthAndDay year fuel (month + 1) (dayOfYear - daysInMonth year month)

end Civil

/-- A date, counted in days since 1970-01-01. -/
structure Date where
  dayNumber : Int
  deriving DecidableEq, Repr

namespace Date

/-- The days from 0001-01-01 to 1970-01-01. -/
def epochOffset : Int := 719162

/-- The first covered year. -/
def minYear : Int := -262143

/-- The last covered year. -/
def maxYear : Int := 262142

/-- The day number of a year, month and day. -/
def numberOfCivil (c : Civil) : Int :=
  Civil.daysBeforeYear c.year + Civil.daysBeforeMonth c.year c.month + c.day - 1 - epochOffset

/-- The date of a year, month and day: the calendar must have the day, in a covered year. -/
def ofCivil? (c : Civil) : Option Date :=
  if c.isDay ∧ minYear ≤ c.year ∧ c.year ≤ maxYear then some ⟨numberOfCivil c⟩ else none

/-- The first covered date. -/
def first : Date :=
  ⟨numberOfCivil ⟨minYear, 1, 1⟩⟩

/-- The last covered date. -/
def last : Date :=
  ⟨numberOfCivil ⟨maxYear, 12, 31⟩⟩

/-- A date from the first covered one to the last. -/
def IsCovered (date : Date) : Prop :=
  first.dayNumber ≤ date.dayNumber ∧ date.dayNumber ≤ last.dayNumber

instance (date : Date) : Decidable date.IsCovered :=
  inferInstanceAs (Decidable (_ ∧ _))

/-- Year, month and day: whole cycles of 400, 100, 4 and 1 years are split off in turn. -/
def civil (date : Date) : Civil :=
  let days := date.dayNumber + epochOffset
  let inCycle := (days % 146097).toNat
  let centuries := min 3 (inCycle / 36524)
  let inCentury := inCycle - centuries * 36524
  let inLeapCycle := inCentury % 1461
  let years := min 3 (inLeapCycle / 365)
  let year := 400 * (days / 146097) + 100 * centuries + 4 * (inCentury / 1461 : Nat) + years + 1
  let (month, day) := Civil.monthAndDay year 12 1 (inLeapCycle - years * 365)
  ⟨year, month, day⟩

/-- The date some days later. -/
def addDays (date : Date) (days : Int) : Date :=
  ⟨date.dayNumber + days⟩

/-- The date some days later, as long as it is covered. -/
def addDays? (date : Date) (days : Int) : Option Date :=
  if (date.addDays days).IsCovered then some (date.addDays days) else none

/-- The number of days since Monday. -/
def daysSinceMonday (date : Date) : Int :=
  (date.dayNumber + 3) % 7

/-- The Monday on or before a date. -/
def weekStart (date : Date) : Date :=
  date.addDays (-date.daysSinceMonday)

/-- The Monday on or before a date, as long as it is covered. -/
def weekStart? (date : Date) : Option Date :=
  date.addDays? (-date.daysSinceMonday)

theorem addDays?_eq_some_iff {date later : Date} {days : Int} :
    date.addDays? days = some later ↔ (date.addDays days).IsCovered ∧ date.addDays days = later := by
  simp [addDays?]

theorem addDays?_eq_none_iff {date : Date} {days : Int} :
    date.addDays? days = none ↔ ¬(date.addDays days).IsCovered := by
  simp [addDays?]

/-- A step forward leads to the same date or a later one. -/
theorem le_of_addDays? {date later : Date} {days : Int} (hdays : 0 ≤ days)
    (h : date.addDays? days = some later) : date.dayNumber ≤ later.dayNumber := by
  obtain ⟨-, rfl⟩ := addDays?_eq_some_iff.1 h
  exact Int.le_add_of_nonneg_right hdays

theorem weekStart?_eq (date : Date) :
    date.weekStart? = if date.weekStart.IsCovered then some date.weekStart else none := rfl

/-- The Sunday in front of a covered date is covered when the Monday of its week is. -/
theorem isCovered_sunday_before {next : Date} (hnext : next.IsCovered)
    (hmonday : (next.addDays (-7)).IsCovered) : ((next.addDays (-7)).addDays 6).IsCovered := by
  simp only [IsCovered, addDays] at hnext hmonday ⊢
  omega

end Date

end AdminQuery
