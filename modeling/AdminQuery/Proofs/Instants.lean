import AdminQuery.Calendar.Instant
import AdminQuery.Proofs.CivilDates

/-!
# Instants and the days they fall on

* `Instant.lt_trichotomy`, `Instant.lt_asymm`: instants come one after another
* `Instant.IsWholeMicrosecond`: an instant outside leap seconds that microseconds can tell
* `Date.start_le_iff`, `Instant.le_finish_iff`: **a day is all that lies between its start and its finish**
* `Instant.elapsed`: the nanoseconds since 1970, a leap second counted as the second after it
-/

namespace AdminQuery

namespace Instant

variable {s t : Instant}

theorem lt_iff : s < t ↔ s.seconds < t.seconds ∨ s.seconds = t.seconds ∧ s.nanos < t.nanos :=
  Iff.rfl

theorem le_iff : s ≤ t ↔ s.seconds < t.seconds ∨ s.seconds = t.seconds ∧ s.nanos ≤ t.nanos :=
  Iff.rfl

theorem lt_asymm (h : s < t) : ¬t < s := by
  rw [lt_iff] at h ⊢
  omega

theorem lt_trichotomy (s t : Instant) : s < t ∨ s = t ∨ t < s := by
  rw [lt_iff, lt_iff]
  obtain ⟨seconds, nanos⟩ := s
  obtain ⟨seconds', nanos'⟩ := t
  simp only [Instant.mk.injEq]
  omega

theorem isLeapSecond_eq_false_iff : t.isLeapSecond = false ↔ t.nanos < nanosPerSecond := by
  simp [isLeapSecond]

/-- An instant outside leap seconds that a clock of microseconds shows. -/
def IsWholeMicrosecond (t : Instant) : Prop :=
  t.isLeapSecond = false ∧ t.nanos % 1000 = 0

/-- The last whole microsecond up to an instant. -/
def cutToMicroseconds (t : Instant) : Instant :=
  ⟨t.seconds, t.nanos / 1000 * 1000⟩

theorem isWholeMicrosecond_cut (h : t.isLeapSecond = false) :
    t.cutToMicroseconds.IsWholeMicrosecond := by
  rw [isLeapSecond_eq_false_iff] at h
  refine ⟨isLeapSecond_eq_false_iff.2 ?_, Nat.mul_mod_left _ _⟩
  exact Nat.lt_of_le_of_lt (Nat.div_mul_le_self t.nanos 1000) h

/-! ### Days -/

/-- What does not come before the start of a day is on that day or on a later one. -/
theorem start_le_iff {day : Date} : day.start ≤ t ↔ day.dayNumber ≤ t.date.dayNumber := by
  rw [le_iff]
  simp only [Date.start, date, secondsPerDay]
  omega

/-- What does not come after the finish of a day is on that day or on an earlier one. -/
theorem le_finish_iff {day : Date} (h : t.IsWholeMicrosecond) :
    t ≤ day.finish ↔ t.date.dayNumber ≤ day.dayNumber := by
  obtain ⟨hleap, hmicro⟩ := h
  rw [isLeapSecond_eq_false_iff, nanosPerSecond] at hleap
  rw [le_iff]
  simp only [Date.finish, date, secondsPerDay]
  omega

/-- What comes after the finish of a day is on a later day. -/
theorem finish_lt_iff {day : Date} (h : t.IsWholeMicrosecond) :
    day.finish < t ↔ day.dayNumber < t.date.dayNumber := by
  obtain ⟨hleap, hmicro⟩ := h
  rw [isLeapSecond_eq_false_iff, nanosPerSecond] at hleap
  rw [lt_iff]
  simp only [Date.finish, date, secondsPerDay]
  omega

theorem date_cutToMicroseconds (t : Instant) : t.cutToMicroseconds.date = t.date := rfl

/-! ### Elapsed time -/

/-- The nanoseconds since 1970-01-01T00:00:00Z; a leap second counts as the second that follows it. -/
def elapsed (t : Instant) : Int :=
  t.seconds * nanosPerSecond + t.nanos

theorem elapsed_leaveLeapSecond (t : Instant) : t.leaveLeapSecond.elapsed = t.elapsed := by
  rw [leaveLeapSecond]
  split
  · rename_i hleap
    rw [isLeapSecond, decide_eq_true_eq, nanosPerSecond] at hleap
    simp only [elapsed, nanosPerSecond]
    omega
  · rfl

/-- The second behind a leap second has the same fraction. -/
theorem nanos_leaveLeapSecond (h : t.nanos < 2 * nanosPerSecond) :
    t.leaveLeapSecond.nanos = t.nanos % nanosPerSecond := by
  rw [leaveLeapSecond]
  split
  · rename_i hleap
    rw [isLeapSecond, decide_eq_true_eq] at hleap
    show t.nanos - nanosPerSecond = t.nanos % nanosPerSecond
    rw [Nat.mod_eq_sub_mod hleap, Nat.mod_eq_of_lt (by omega)]
  · rename_i hleap
    rw [isLeapSecond, decide_eq_true_eq] at hleap
    rw [Nat.mod_eq_of_lt (by omega)]

/-- Going back takes whole days away, also from an instant in a leap second. -/
theorem elapsed_daysBefore (t : Instant) (days : Nat) :
    (t.daysBefore days).elapsed = t.elapsed - days * secondsPerDay * nanosPerSecond := by
  rw [daysBefore]
  split
  · rename_i hzero
    simp [hzero]
  · rw [← elapsed_leaveLeapSecond t]
    simp only [elapsed, secondsPerDay, nanosPerSecond]
    omega

end Instant

end AdminQuery
