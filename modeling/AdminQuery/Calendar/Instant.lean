import AdminQuery.Calendar.Date

/-!
# Instants

* `Instant`: a moment in universal time, to the nanosecond, leap seconds included
* `Date.start`, `Date.finish`: the first instant of a day, and its last whole microsecond
* `Instant.daysBefore?`: the instant a number of days earlier
-/

namespace AdminQuery

/-- A moment in universal time.  In a leap second `nanos` runs from `10 ^ 9` on, and `seconds` still
counts the second before it. -/
structure Instant where
  /-- Whole seconds since 1970-01-01T00:00:00Z. -/
  seconds : Int
  nanos : Nat
  deriving DecidableEq, Repr

/-- The seconds of a day. -/
def secondsPerDay : Nat := 86400

/-- The nanoseconds of a second. -/
def nanosPerSecond : Nat := 1000000000

namespace Date

/-- Midnight at the start of a day. -/
def start (date : Date) : Instant :=
  ⟨date.dayNumber * secondsPerDay, 0⟩

/-- The last whole microsecond of a day. -/
def finish (date : Date) : Instant :=
  ⟨date.dayNumber * secondsPerDay + 86399, 999999000⟩

end Date

namespace Instant

/-- The date in universal time. -/
def date (t : Instant) : Date :=
  ⟨t.seconds / secondsPerDay⟩

/-- Inside a leap second. -/
def isLeapSecond (t : Instant) : Bool :=
  nanosPerSecond ≤ t.nanos

instance : LE Instant where
  le s t := s.seconds < t.seconds ∨ (s.seconds = t.seconds ∧ s.nanos ≤ t.nanos)

instance : LT Instant where
  lt s t := s.seconds < t.seconds ∨ (s.seconds = t.seconds ∧ s.nanos < t.nanos)

/-- A leap second as the second that follows it; other instants are unchanged. -/
def leaveLeapSecond (t : Instant) : Instant :=
  if t.isLeapSecond then ⟨t.seconds + 1, t.nanos - nanosPerSecond⟩ else t

/-- The instant some days earlier; zero days keep even a leap second. -/
def daysBefore (t : Instant) (days : Nat) : Instant :=
  if days = 0 then t
  else ⟨t.leaveLeapSecond.seconds - days * secondsPerDay, t.leaveLeapSecond.nanos⟩

/-- The instant some days earlier, unless it lies before the first covered date. -/
def daysBefore? (t : Instant) (days : Nat) : Option Instant :=
  let earlier := t.daysBefore days
  if Date.first.dayNumber ≤ earlier.date.dayNumber then some earlier else none

end Instant

end AdminQuery
