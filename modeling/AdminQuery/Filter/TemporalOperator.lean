import AdminQuery.Calendar.DateText
import AdminQuery.Condition.Atom

/-!
# Date operators

* `TemporalOperator`: the ways to name days
* `TemporalOperator.ofOperator`: the way that an operator token asks for
* `TemporalOperator.predicate?`: the test of a column against the named days
* `TemporalOperator.overflows`: the weeks at which the program stops instead

Main statement: `predicate?_cases`, that the tests are those of days in order and of instants.
-/

namespace AdminQuery

/-- A way to name days. -/
inductive TemporalOperator where
  | today
  | yesterday
  /-- Monday to Sunday around today. -/
  | thisWeek
  | lastWeek
  /-- Less than a number of days ago. -/
  | lessThan
  /-- More than a number of days ago. -/
  | moreThan
  /-- The day written as eight digits. -/
  | monthDayYear
  /-- The day written as year, month and day. -/
  | on
  /-- An unknown operator, which names no days. -/
  | unknown
  deriving DecidableEq, Repr

/-- From midnight of the first day to the last microsecond of the last. -/
def Predicate.ofDays (first last : Date) : Predicate :=
  .between first.start last.finish

namespace TemporalOperator

/-- The way that a token asks for, blanks around it aside. -/
def ofToken (token : String) : TemporalOperator :=
  let plain := Text.trim token
  if ["", "is", "=", "default"].contains plain then on
  else if plain = "today" then today
  else if plain = "yesterday" then yesterday
  else if plain = "this_week" then thisWeek
  else if plain = "last_week" then lastWeek
  else if plain = "less_than" then lessThan
  else if plain = "more_than" then moreThan
  else if plain = "mmddyyyy" then monthDayYear
  else unknown

/-- The way that an operator asks for; none at all asks for a written day. -/
def ofOperator (operator : Option String) : TemporalOperator :=
  (operator.map ofToken).getD on

/-- The instant that the value of a relative operator names: that many days ago, not in the future. -/
def cutoff? (value : String) (now : Instant) : Option Instant :=
  (Number.integer? (Text.trim value)).bind fun days =>
    if 0 ≤ days then now.daysBefore? days.toNat else none

/-- The test against the days that an operator and a value name at the time `now`.  Days that are not
covered give none. -/
def predicate? (op : TemporalOperator) (value : String) (now : Instant) : Option Predicate :=
  match op with
  | today => some (.ofDays now.date now.date)
  | yesterday => (now.date.addDays? (-1)).map fun day => .ofDays day day
  | thisWeek => do
    let monday ← now.date.weekStart?
    let sunday ← monday.addDays? 6
    return .ofDays monday sunday
  | lastWeek => do
    let next ← now.date.weekStart?
    let monday ← next.addDays? (-7)
    let sunday ← monday.addDays? 6
    return .ofDays monday sunday
  | lessThan => (cutoff? value now).map .after
  | moreThan => (cutoff? value now).map .before
  | monthDayYear => (Date.ofMonthDayYear? value).map fun date => .ofDays date date
  | on => (Date.ofIso? value).map fun date => .ofDays date date
  | unknown => none

/-- The Monday of this week is covered, but the week that an operator names is not as a whole.  The steps
behind that Monday are not checked, and the program stops at the one that leaves the covered dates. -/
def overflows (op : TemporalOperator) (now : Instant) : Bool :=
  match op with
  | thisWeek => now.date.weekStart?.any fun monday => (monday.addDays? 6).isNone
  | lastWeek => now.date.weekStart?.any fun next =>
    ((next.addDays? (-7)).bind fun monday => monday.addDays? 6).isNone
  | today | yesterday | lessThan | moreThan | monthDayYear | on | unknown => false

/-- An operator tests against days that come in order, or against one instant. -/
theorem predicate?_cases {op : TemporalOperator} {value : String} {now : Instant} {p : Predicate}
    (h : op.predicate? value now = some p) :
    (∃ first last : Date, first.dayNumber ≤ last.dayNumber ∧ p = .ofDays first last) ∨
      ∃ t, p = .after t ∨ p = .before t := by
  cases op with
  | today =>
    cases h
    exact .inl ⟨_, _, Int.le_refl _, rfl⟩
  | yesterday | monthDayYear | on =>
    obtain ⟨day, -, rfl⟩ := Option.map_eq_some_iff.1 h
    exact .inl ⟨day, day, Int.le_refl _, rfl⟩
  | thisWeek =>
    obtain ⟨monday, -, h⟩ := Option.bind_eq_some_iff.1 h
    obtain ⟨sunday, hsunday, h⟩ := Option.bind_eq_some_iff.1 h
    cases h
    exact .inl ⟨monday, sunday, Date.le_of_addDays? (by decide) hsunday, rfl⟩
  | lastWeek =>
    obtain ⟨_, -, h⟩ := Option.bind_eq_some_iff.1 h
    obtain ⟨monday, -, h⟩ := Option.bind_eq_some_iff.1 h
    obtain ⟨sunday, hsunday, h⟩ := Option.bind_eq_some_iff.1 h
    cases h
    exact .inl ⟨monday, sunday, Date.le_of_addDays? (by decide) hsunday, rfl⟩
  | lessThan =>
    rw [predicate?, Option.map_eq_some_iff] at h
    obtain ⟨t, -, rfl⟩ := h
    exact .inr ⟨t, .inl rfl⟩
  | moreThan =>
    rw [predicate?, Option.map_eq_some_iff] at h
    obtain ⟨t, -, rfl⟩ := h
    exact .inr ⟨t, .inr rfl⟩
  | unknown => cases h

end TemporalOperator

end AdminQuery
