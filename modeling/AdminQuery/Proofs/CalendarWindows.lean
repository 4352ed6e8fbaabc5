import AdminQuery.Proofs.DateConditions

/-!
# Days and weeks around now

* `CalendarWindow`: the days that an operator names by the clock alone
* `CalendarWindow.days?`: its first and its last day, where every step must stay among the covered dates
* `Civil.StartsWeekOf`: the Monday on or before a day
* `CalendarWindow.Names`: the days of a window, told by the calendar
* `CalendarWindow.mem_days_iff`: **what lies between the bounds of a window is on the days it names**
* `calendar_windows_are_exact`: that, for the conditions of the operators
-/

namespace AdminQuery

/-- The days that an operator names by the clock alone. -/
inductive CalendarWindow where
  | today
  | yesterday
  | thisWeek
  | lastWeek
  deriving DecidableEq, Repr

/-- The last Monday that is not after a day: at most six days follow it up to the day. -/
def Civil.StartsWeekOf (monday day : Civil) : Prop :=
  monday.isDay = true ∧ monday.weekday = 0 ∧ ∃ days < 7, Civil.next^[days] monday = day

/-- **Each day has one such Monday, the first day of its week by number.** -/
theorem Date.startsWeekOf_iff {date : Date} {monday : Civil} :
    monday.StartsWeekOf date.civil ↔ monday = date.weekStart.civil := by
  constructor
  · rintro ⟨hday, hmonday, days, hlt, hdays⟩
    rw [← civil_numberOfCivil hday] at hmonday hdays ⊢
    rw [weekday_civil, daysSinceMonday] at hmonday
    rw [← civil_addDays] at hdays
    have hdate := civil_injective hdays
    rw [← hdate, weekStart, daysSinceMonday]
    simp only [addDays] at hmonday ⊢
    congr 2
    omega
  · rintro rfl
    refine ⟨isDay_civil _, ?_, date.daysSinceMonday.toNat, ?_, ?_⟩
    · rw [weekday_civil]
      simp only [weekStart, addDays, daysSinceMonday]
      omega
    · rw [daysSinceMonday]
      omega
    · rw [← civil_addDays, weekStart]
      simp only [addDays, daysSinceMonday]
      congr 2
      omega

namespace CalendarWindow

variable {window : CalendarWindow} {now : Date} {bounds : Date × Date}

/-- The operator token of a window. -/
def token : CalendarWindow → String
  | today => "today"
  | yesterday => "yesterday"
  | thisWeek => "this_week"
  | lastWeek => "last_week"

/-- The first and the last day of a window.  Every step must lead to a covered date. -/
def days? (window : CalendarWindow) (now : Date) : Option (Date × Date) :=
  match window with
  | today => some (now, now)
  | yesterday => do
    let day ← now.addDays? (-1)
    return (day, day)
  | thisWeek => do
    let monday ← now.addDays? (-now.daysSinceMonday)
    let sunday ← monday.addDays? 6
    return (monday, sunday)
  | lastWeek => do
    let next ← now.addDays? (-now.daysSinceMonday)
    let monday ← next.addDays? (-7)
    let sunday ← monday.addDays? 6
    return (monday, sunday)

/-- The days of a window around today: today itself, the day before, the days with the same Monday, and
those whose Monday is seven days earlier. -/
def Names (window : CalendarWindow) (now day : Civil) : Prop :=
  match window with
  | today => day = now
  | yesterday => day.next = now
  | thisWeek => ∃ monday : Civil, monday.StartsWeekOf now ∧ monday.StartsWeekOf day
  | lastWeek => ∃ monday : Civil, (Civil.next^[7] monday).StartsWeekOf now ∧ monday.StartsWeekOf day

/-- The first and the last day of a window, counted from now. -/
def days (window : CalendarWindow) (now : Date) : Date × Date :=
  match window with
  | today => (now, now)
  | yesterday => (now.addDays (-1), now.addDays (-1))
  | thisWeek => (now.weekStart, now.weekStart.addDays 6)
  | lastWeek => (now.weekStart.addDays (-7), now.weekStart.addDays (-1))

/-- Steps that stay among the covered dates lead to the same days. -/
theorem eq_days (h : window.days? now = some bounds) : bounds = window.days now := by
  have hback : (now.weekStart.addDays (-7)).addDays 6 = now.weekStart.addDays (-1) := by
    simp only [Date.addDays]
    congr 1
    omega
  cases window with
  | today =>
    cases h
    rfl
  | yesterday =>
    simp only [days?, Option.bind_eq_bind, Option.bind_eq_some_iff, Date.addDays?_eq_some_iff] at h
    obtain ⟨_, ⟨-, rfl⟩, h⟩ := h
    cases h
    rfl
  | thisWeek =>
    simp only [days?, Option.bind_eq_bind, Option.bind_eq_some_iff, Date.addDays?_eq_some_iff] at h
    obtain ⟨_, ⟨-, rfl⟩, _, ⟨-, rfl⟩, h⟩ := h
    cases h
    rfl
  | lastWeek =>
    simp only [days?, Option.bind_eq_bind, Option.bind_eq_some_iff, Date.addDays?_eq_some_iff] at h
    obtain ⟨_, ⟨-, rfl⟩, _, ⟨-, rfl⟩, _, ⟨-, rfl⟩, h⟩ := h
    cases h
    exact congrArg (Prod.mk _) hback

/-- The date operator of a window. -/
def operator : CalendarWindow → TemporalOperator
  | today => .today
  | yesterday => .yesterday
  | thisWeek => .thisWeek
  | lastWeek => .lastWeek

/-- The operator of a window tests against its days, whatever the value is. -/
theorem predicate?_operator (window : CalendarWindow) (value : String) (t : Instant) :
    window.operator.predicate? value t =
      (window.days? t.date).map fun bounds => .ofDays bounds.1 bounds.2 := by
  cases window with
  | today => rfl
  | yesterday | thisWeek | lastWeek =>
    simp [operator, days?, TemporalOperator.predicate?, Date.weekStart?, Option.map_eq_bind,
      Option.bind_assoc]

/-- The token of a window stands for its operator, and is no control token. -/
theorem token_spec (window : CalendarWindow) :
    Text.trim window.token = window.token ∧
      TemporalOperator.ofToken window.token = window.operator ∧
      window.token.toList.head? ≠ some '_' := by
  cases window <;> exact ⟨by decide, rfl, by decide⟩

/-- **The days of a window are those that the calendar names.** -/
theorem mem_days_iff (window : CalendarWindow) (now day : Date) :
    (window.days now).1.dayNumber ≤ day.dayNumber ∧ day.dayNumber ≤ (window.days now).2.dayNumber ↔
      window.Names now.civil day.civil := by
  cases window with
  | today =>
    show now.dayNumber ≤ day.dayNumber ∧ day.dayNumber ≤ now.dayNumber ↔ day.civil = now.civil
    rw [Date.civil_injective.eq_iff, Date.eq_iff]
    omega
  | yesterday =>
    show now.dayNumber + -1 ≤ day.dayNumber ∧ day.dayNumber ≤ now.dayNumber + -1 ↔
      day.civil.next = now.civil
    rw [← Date.civil_addDays_one, Date.civil_injective.eq_iff, Date.eq_iff]
    simp only [Date.addDays]
    omega
  | thisWeek =>
    show now.weekStart.dayNumber ≤ day.dayNumber ∧ day.dayNumber ≤ now.weekStart.dayNumber + 6 ↔
      ∃ monday : Civil, monday.StartsWeekOf now.civil ∧ monday.StartsWeekOf day.civil
    simp only [Date.startsWeekOf_iff, exists_eq_left, Date.civil_injective.eq_iff, Date.eq_iff]
    simp only [Date.weekStart, Date.addDays, Date.daysSinceMonday]
    omega
  | lastWeek =>
    show now.weekStart.dayNumber + -7 ≤ day.dayNumber ∧
      day.dayNumber ≤ now.weekStart.dayNumber + -1 ↔ ∃ monday : Civil,
        (Civil.next^[7] monday).StartsWeekOf now.civil ∧ monday.StartsWeekOf day.civil
    simp only [Date.startsWeekOf_iff, exists_eq_right, ← Date.civil_addDays day.weekStart 7,
      Date.civil_injective.eq_iff, Date.eq_iff]
    simp only [Date.weekStart, Date.addDays, Date.daysSinceMonday]
    omega

end CalendarWindow

open CalendarWindow

/-- **Conditions on days and weeks around now are exact.**  What lies between the bounds that the operator of
a window binds is on the days that the window names, to the microsecond; yesterday ends where today starts and
last week ends where this week starts; and now is on today and in this week. -/
theorem calendar_windows_are_exact {now : Instant} {bounds : CalendarWindow → Date × Date}
    (hnow : now.isLeapSecond = false)
    (hbounds : ∀ window : CalendarWindow, window.days? now.date = some (bounds window)) :
    (∀ (window : CalendarWindow) (operator value column : String) (style : PatternStyle)
      (type : StorageType), type.isTemporal = true → Text.trim operator = window.token →
      ControlToken.ofText? value = none →
      (⟨some operator, value⟩ : FilterEntry).condition? style column type now =
        some (.between column (bounds window).1.start (bounds window).2.finish)) ∧
    (∀ (window : CalendarWindow) (t : Instant), t.IsWholeMicrosecond →
      ((bounds window).1.start ≤ t ∧ t ≤ (bounds window).2.finish ↔
        window.Names now.date.civil t.date.civil)) ∧
    (∀ t : Instant, t.IsWholeMicrosecond →
      ((bounds yesterday).2.finish < t ↔ (bounds today).1.start ≤ t) ∧
      ((bounds lastWeek).2.finish < t ↔ (bounds thisWeek).1.start ≤ t)) ∧
    (∀ window, window = today ∨ window = thisWeek → (bounds window).1.start ≤ now.cutToMicroseconds ∧
      now.cutToMicroseconds ≤ (bounds window).2.finish) := by
  have hdays : ∀ window, bounds window = window.days now.date := fun window => eq_days (hbounds window)
  have hmem (window : CalendarWindow) {t : Instant} (ht : t.IsWholeMicrosecond) :
      (bounds window).1.start ≤ t ∧ t ≤ (bounds window).2.finish ↔
        window.Names now.date.civil t.date.civil := by
    rw [Instant.start_le_iff, Instant.le_finish_iff ht, hdays, mem_days_iff]
  refine ⟨?_, fun window t => hmem window, ?_, ?_⟩
  · intro window operator value column style type htype hoperator hvalue
    obtain ⟨hplain, htoken, hcontrol⟩ := window.token_spec
    rw [condition?_of_token window.operator hoperator hplain htoken hcontrol htype hvalue,
      predicate?_operator, hbounds, Option.map_some, Option.map_some, condition_ofDays]
  · intro t ht
    simp only [Instant.finish_lt_iff ht, Instant.start_le_iff, hdays, days, Date.addDays]
    omega
  · intro window hwindow
    rw [hmem window (Instant.isWholeMicrosecond_cut hnow), Instant.date_cutToMicroseconds]
    rcases hwindow with rfl | rfl
    · exact rfl
    · exact ⟨_, Date.startsWeekOf_iff.2 rfl, Date.startsWeekOf_iff.2 rfl⟩

/-- The last nanosecond of Saturday, 2024-03-02: its week began on Monday, 2024-02-26, and holds the leap
day. -/
theorem calendar_windows_are_exact_leap_day :
    (⟨1709423999, 999999999⟩ : Instant).isLeapSecond = false ∧
    (∀ window : CalendarWindow, window.days? ⟨19784⟩ = some (window.days ⟨19784⟩)) ∧
    (⟨some " this_week", "7"⟩ : FilterEntry).condition? ⟨.sqlite, false⟩ "games.played_on" .date
        ⟨1709423999, 999999999⟩ =
      some (.between "games.played_on" ⟨1708905600, 0⟩ ⟨1709510399, 999999000⟩) ∧
    (∀ t : Instant, t.IsWholeMicrosecond →
      ((⟨1708905600, 0⟩ : Instant) ≤ t ∧ t ≤ (⟨1709510399, 999999000⟩ : Instant) ↔
        thisWeek.Names ⟨2024, 3, 2⟩ t.date.civil)) := by
  have hnow : (⟨1709423999, 999999999⟩ : Instant).isLeapSecond = false := by decide
  have hbounds : ∀ window : CalendarWindow,
      window.days? ⟨19784⟩ = some (window.days ⟨19784⟩) := by
    intro window
    cases window <;> decide +kernel
  have hcivil : (⟨19784⟩ : Date).civil = ⟨2024, 3, 2⟩ := by decide +kernel
  obtain ⟨hcondition, hnames, -, -⟩ :=
    @calendar_windows_are_exact _ (fun window => window.days ⟨19784⟩) hnow hbounds
  refine ⟨hnow, hbounds, hcondition thisWeek " this_week" "7" _ _ _ rfl (by decide) (by decide), ?_⟩
  rw [← hcivil]
  exact hnames thisWeek

end AdminQuery
