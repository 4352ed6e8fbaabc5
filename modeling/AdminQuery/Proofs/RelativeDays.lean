import AdminQuery.Proofs.DateConditions
import AdminQuery.Proofs.DecimalTexts

/-!
# Cutoffs a number of days ago

* `Instant.IsRepresentable`: an instant on a covered date
* `Instant.IsDaysEarlier`, `Instant.ReachesBack`: what it is to be days earlier, and how far back one can go
* `Instant.daysBefore?_eq_some_iff`: going back is exact, and ends at the first covered date
* `checkedCutoff?`, `checkedCutoff?_eq`: **no number of days overflows**
* `cutoff?_eq_some_iff`: the cutoffs that values name
* `relative_cutoffs_are_exact`: **the conditions of both operators, and how cutoffs lie to one another**
-/

namespace AdminQuery

open Number

namespace Instant

variable {now cutoff earlier : Instant} {days more : Int}

/-- An instant on a covered date, in a second or in the leap second behind it. -/
def IsRepresentable (t : Instant) : Prop :=
  t.date.IsCovered ∧ t.nanos < 2 * nanosPerSecond

/-- The first instant on a covered date. -/
def earliest : Instant :=
  Date.first.start

/-- Going back some days from now does not lead before the earliest instant. -/
def ReachesBack (now : Instant) (days : Int) : Prop :=
  earliest.elapsed ≤ now.elapsed - days * secondsPerDay * nanosPerSecond

/-- An instant some days before now: whole days earlier, at the same fraction of a second.  A leap second is
left, unless there is no day to go back. -/
structure IsDaysEarlier (now : Instant) (days : Int) (cutoff : Instant) : Prop where
  elapsed : cutoff.elapsed = now.elapsed - days * secondsPerDay * nanosPerSecond
  fraction : cutoff.nanos % nanosPerSecond = now.nanos % nanosPerSecond
  stays : days = 0 → cutoff = now
  leaves : days ≠ 0 → cutoff.isLeapSecond = false

/-- Only one instant is a number of days earlier. -/
theorem IsDaysEarlier.unique (h : now.IsDaysEarlier days cutoff) (h' : now.IsDaysEarlier days earlier) :
    cutoff = earlier := by
  by_cases hzero : days = 0
  · rw [h.stays hzero, h'.stays hzero]
  · have hleft := isLeapSecond_eq_false_iff.1 (h.leaves hzero)
    have hleft' := isLeapSecond_eq_false_iff.1 (h'.leaves hzero)
    have helapsed := h.elapsed.trans h'.elapsed.symm
    obtain ⟨seconds, nanos⟩ := cutoff
    obtain ⟨seconds', nanos'⟩ := earlier
    simp only [Instant.elapsed, nanosPerSecond, mk.injEq] at *
    omega

/-- Going back gives the instant that is days earlier. -/
theorem isDaysEarlier_daysBefore (h : now.IsRepresentable) (days : Nat) :
    now.IsDaysEarlier days (now.daysBefore days) := by
  have hnanos : days ≠ 0 → (now.daysBefore days).nanos = now.nanos % nanosPerSecond := by
    intro hne
    rw [daysBefore, if_neg hne]
    exact nanos_leaveLeapSecond h.2
  refine ⟨elapsed_daysBefore now days, ?_, ?_, ?_⟩
  · by_cases hzero : days = 0
    · rw [daysBefore, if_pos hzero]
    · rw [hnanos hzero, Nat.mod_mod]
  · intro hzero
    rw [daysBefore, if_pos (Int.natCast_eq_zero.1 hzero)]
  · intro hne
    rw [isLeapSecond_eq_false_iff, hnanos (fun hzero => hne (Int.natCast_eq_zero.2 hzero))]
    exact Nat.mod_lt _ (by decide)

/-- What is days earlier falls on a covered date when one can go back that far. -/
theorem IsDaysEarlier.first_le_iff (h : now.IsDaysEarlier days cutoff) (hnow : now.IsRepresentable) :
    Date.first.dayNumber ≤ cutoff.date.dayNumber ↔ now.ReachesBack days := by
  rw [ReachesBack, ← h.elapsed]
  by_cases hzero : days = 0
  · rw [h.stays hzero]
    have hcovered := hnow.1.1
    refine iff_of_true hcovered ?_
    simp only [earliest, Date.start, Instant.elapsed, date, secondsPerDay, nanosPerSecond] at *
    omega
  · have hleft := isLeapSecond_eq_false_iff.1 (h.leaves hzero)
    simp only [earliest, Date.start, Instant.elapsed, date, secondsPerDay, nanosPerSecond] at *
    omega

/-- **Going back is exact, and possible as long as it does not lead before the earliest instant.** -/
theorem daysBefore?_eq_some_iff (hnow : now.IsRepresentable) {days : Nat} :
    now.daysBefore? days = some cutoff ↔ now.ReachesBack days ∧ now.IsDaysEarlier days cutoff := by
  have hbefore := isDaysEarlier_daysBefore hnow days
  rw [daysBefore?, ← hbefore.first_le_iff hnow]
  split
  · rename_i hfirst
    rw [Option.some.injEq]
    constructor
    · rintro rfl
      exact ⟨hfirst, hbefore⟩
    · rintro ⟨-, hcutoff⟩
      exact hbefore.unique hcutoff
  · rename_i hfirst
    simp [hfirst]

/-- The more days, the earlier the instant. -/
theorem IsDaysEarlier.lt (h : now.IsDaysEarlier days cutoff) (h' : now.IsDaysEarlier more earlier)
    (hnow : now.IsRepresentable) (hpos : 0 ≤ days) (hlt : days < more) : earlier < cutoff := by
  have hleft := isLeapSecond_eq_false_iff.1 (h'.leaves (by omega))
  have helapsed := h.elapsed
  have helapsed' := h'.elapsed
  have hnanos : cutoff.nanos < 2 * nanosPerSecond := by
    by_cases hzero : days = 0
    · rw [h.stays hzero]
      exact hnow.2
    · have hcutoff := isLeapSecond_eq_false_iff.1 (h.leaves hzero)
      rw [nanosPerSecond] at *
      omega
  rw [lt_iff]
  simp only [Instant.elapsed, secondsPerDay, nanosPerSecond] at *
  omega

/-- If one can go back some days, one can go back fewer. -/
theorem ReachesBack.mono (h : now.ReachesBack more) (hle : days ≤ more) : now.ReachesBack days := by
  simp only [ReachesBack, secondsPerDay, nanosPerSecond] at *
  omega

/-- A number of days that can be asked for: not negative, within 64 bits, and not too far back. -/
def AcceptsDays (now : Instant) (days : Int) : Prop :=
  0 ≤ days ∧ days ≤ maxInteger ∧ now.ReachesBack days

instance (now : Instant) (days : Int) : Decidable (now.AcceptsDays days) :=
  inferInstanceAs (Decidable (_ ∧ _ ∧ earliest.elapsed ≤ _))

theorem AcceptsDays.mono (h : now.AcceptsDays more) (hpos : 0 ≤ days) (hle : days ≤ more) :
    now.AcceptsDays days :=
  ⟨hpos, hle.trans h.2.1, h.2.2.mono hle⟩

end Instant

/-! ### Cutoffs -/

/-- **The cutoff of a value is the instant as many days earlier as its text writes.** -/
theorem cutoff?_eq_some_iff {now cutoff : Instant} (hnow : now.IsRepresentable) {value : String} :
    TemporalOperator.cutoff? value now = some cutoff ↔
      ∃ days, WritesInteger (Text.trim value).toList days ∧ now.AcceptsDays days ∧
        now.IsDaysEarlier days cutoff := by
  rw [TemporalOperator.cutoff?, Option.bind_eq_some_iff]
  refine exists_congr fun days => ?_
  rw [integer?, integerOfChars?_eq_some_iff, Instant.AcceptsDays]
  by_cases hpos : 0 ≤ days
  · have hmin : minInteger ≤ days := by
      rw [minInteger]
      omega
    obtain ⟨n, rfl⟩ := Int.eq_ofNat_of_zero_le hpos
    rw [if_pos hpos, Int.toNat_natCast, Instant.daysBefore?_eq_some_iff hnow]
    tauto
  · simp [hpos]

/-! ### Computing with 64 bits -/

/-- A number that 64 bits hold. -/
def checked? (n : Int) : Option Int :=
  if minInteger ≤ n ∧ n ≤ maxInteger then some n else none

/-- The longest span of time in seconds: 64 bits hold its milliseconds. -/
def maxSpan : Int :=
  maxInteger / 1000

/-- The seconds of a number of days, where neither they nor their milliseconds may overflow. -/
def spanOfDays? (days : Int) : Option Int := do
  let span ← checked? (days * secondsPerDay)
  if -maxSpan ≤ span ∧ span ≤ maxSpan then some span else none

/-- The instant a span earlier, where neither the seconds nor the date may leave their range. -/
def Instant.minusSpan? (t : Instant) (span : Int) : Option Instant := do
  let seconds ← checked? (t.leaveLeapSecond.seconds - span)
  let earlier : Instant := if span = 0 then t else ⟨seconds, t.leaveLeapSecond.nanos⟩
  if earlier.date.IsCovered then some earlier else none

/-- The cutoff of a value, where every step looks out for an overflow. -/
def checkedCutoff? (value : String) (now : Instant) : Option Instant := do
  let days ← integer? (Text.trim value)
  if 0 ≤ days then
    let span ← spanOfDays? days
    now.minusSpan? span
  else none

theorem checked?_of_bounds {n : Int} (hlow : minInteger ≤ n) (hhigh : n ≤ maxInteger) :
    checked? n = some n :=
  if_pos ⟨hlow, hhigh⟩

/-- The seconds of an instant on a covered date are few. -/
theorem Instant.seconds_bounds {t : Instant} (h : t.date.IsCovered) :
    -10000000000000 ≤ t.seconds ∧ t.seconds ≤ 10000000000000 := by
  have hfirst : Date.first.dayNumber = -96465292 := by decide +kernel
  have hlast : Date.last.dayNumber = 95026236 := by decide +kernel
  rw [Date.IsCovered, hfirst, hlast] at h
  simp only [date, secondsPerDay] at h
  omega

/-- As many days as one can go back are not too long a span. -/
theorem Instant.ReachesBack.span_le {now : Instant} {days : Int} (h : now.ReachesBack days)
    (hnow : now.IsRepresentable) : days * secondsPerDay ≤ maxSpan := by
  obtain ⟨-, hhigh⟩ := seconds_bounds hnow.1
  obtain ⟨hlow, -⟩ := seconds_bounds (t := earliest) (by decide +kernel)
  have hnanos := hnow.2
  simp only [ReachesBack, elapsed, secondsPerDay, nanosPerSecond] at h hnanos
  simp only [maxSpan, maxInteger, secondsPerDay]
  omega

/-- A span of days is held when it is not too long. -/
theorem spanOfDays?_eq_some_iff {days span : Int} : spanOfDays? days = some span ↔
    span = days * secondsPerDay ∧ -maxSpan ≤ span ∧ span ≤ maxSpan := by
  rw [spanOfDays?, Option.bind_eq_bind, Option.bind_eq_some_iff]
  simp only [checked?, Option.ite_none_right_eq_some, Option.some.injEq]
  constructor
  · rintro ⟨seconds, ⟨-, rfl⟩, hspan, rfl⟩
    exact ⟨rfl, hspan⟩
  · rintro ⟨rfl, hspan⟩
    refine ⟨_, ⟨?_, rfl⟩, hspan, rfl⟩
    simp only [maxSpan, minInteger, maxInteger] at hspan ⊢
    omega

/-- From a representable instant the steps back with and without a look at overflows agree. -/
theorem minusSpan?_eq {now : Instant} (hnow : now.IsRepresentable) (days : Nat)
    (hspan : days * secondsPerDay ≤ maxSpan) :
    now.minusSpan? (days * secondsPerDay) = now.daysBefore? days := by
  obtain ⟨hlow, hhigh⟩ := Instant.seconds_bounds hnow.1
  have hleave : now.leaveLeapSecond.seconds = now.seconds ∨
      now.leaveLeapSecond.seconds = now.seconds + 1 := by
    rw [Instant.leaveLeapSecond]
    split
    · exact .inr rfl
    · exact .inl rfl
  have hseconds : checked? (now.leaveLeapSecond.seconds - days * secondsPerDay) =
      some (now.leaveLeapSecond.seconds - days * secondsPerDay) := by
    simp only [maxSpan, maxInteger, secondsPerDay] at hspan ⊢
    refine checked?_of_bounds ?_ ?_
    · rw [minInteger]
      omega
    · rw [maxInteger]
      omega
  have hearlier : (if (days : Int) * secondsPerDay = 0 then now
      else ⟨now.leaveLeapSecond.seconds - days * secondsPerDay, now.leaveLeapSecond.nanos⟩) =
        now.daysBefore days := by
    rw [Instant.daysBefore]
    by_cases hzero : days = 0
    · rw [if_pos hzero, if_pos (by simp [hzero])]
    · rw [if_neg hzero, if_neg (by simp only [secondsPerDay]; omega)]
  have hlast : (now.daysBefore days).date.dayNumber ≤ Date.last.dayNumber := by
    have hcovered := hnow.1.2
    rw [Instant.daysBefore]
    split
    · exact hcovered
    · simp only [Instant.date, secondsPerDay] at hcovered ⊢
      omega
  rw [Instant.minusSpan?, Option.bind_eq_bind, hseconds, Option.bind_some]
  show (if (if (days : Int) * secondsPerDay = 0 then now else _ : Instant).date.IsCovered then _
    else none) = _
  rw [hearlier, Instant.daysBefore?]
  simp only [Date.IsCovered, hlast, and_true]

/-- **No number of days overflows**: what is refused on the way is refused anyway. -/
theorem checkedCutoff?_eq {now : Instant} (hnow : now.IsRepresentable) (value : String) :
    checkedCutoff? value now = TemporalOperator.cutoff? value now := by
  rw [checkedCutoff?, TemporalOperator.cutoff?, Option.bind_eq_bind]
  cases integer? (Text.trim value) with
  | none => rfl
  | some days =>
    rw [Option.bind_some, Option.bind_some]
    by_cases hpos : 0 ≤ days
    · obtain ⟨n, rfl⟩ := Int.eq_ofNat_of_zero_le hpos
      rw [if_pos hpos, if_pos hpos, Int.toNat_natCast]
      by_cases hspan : (n : Int) * secondsPerDay ≤ maxSpan
      · have hheld : spanOfDays? n = some ((n : Int) * secondsPerDay) := by
          refine spanOfDays?_eq_some_iff.2 ⟨rfl, ?_, hspan⟩
          simp only [maxSpan, maxInteger, secondsPerDay]
          omega
        rw [hheld, Option.bind_some, minusSpan?_eq hnow n hspan]
      · have hrefused : spanOfDays? n = none := by
          rw [Option.eq_none_iff_forall_ne_some]
          intro span h
          obtain ⟨rfl, -, hle⟩ := spanOfDays?_eq_some_iff.1 h
          exact hspan hle
        have hfar : now.daysBefore? n = none := by
          rw [Option.eq_none_iff_forall_ne_some]
          intro cutoff h
          exact hspan (((Instant.daysBefore?_eq_some_iff hnow).1 h).1.span_le hnow)
        rw [hrefused, hfar]
        rfl
    · rw [if_neg hpos, if_neg hpos]

/-! ### Both operators -/

/-- **Conditions on a number of days ago are exact.**  Both operators give a condition for the values that
write a number of days which can be gone back, and for no others; both bind the one instant that is as many
days earlier, and any other instant is on one side of it.  More days lead to an earlier instant, fewer days
are accepted too, and no step of the computation overflows. -/
theorem relative_cutoffs_are_exact {now : Instant} (hnow : now.IsRepresentable) :
    (∀ (less more value column : String) (style : PatternStyle) (type : StorageType),
      type.isTemporal = true → Text.trim less = "less_than" → Text.trim more = "more_than" →
      ControlToken.ofText? value = none →
      (∀ days, WritesInteger (Text.trim value).toList days → now.AcceptsDays days →
        ∃ cutoff, now.IsDaysEarlier days cutoff ∧
          (⟨some less, value⟩ : FilterEntry).condition? style column type now =
            some (.after column cutoff) ∧
          (⟨some more, value⟩ : FilterEntry).condition? style column type now =
            some (.before column cutoff) ∧
          ∀ t, t ≠ cutoff → Xor (cutoff < t) (t < cutoff)) ∧
      ((¬∃ days, WritesInteger (Text.trim value).toList days ∧ now.AcceptsDays days) →
        (⟨some less, value⟩ : FilterEntry).condition? style column type now = none ∧
        (⟨some more, value⟩ : FilterEntry).condition? style column type now = none)) ∧
    (∀ days more cutoff earlier, now.AcceptsDays days → now.AcceptsDays more → days < more →
      now.IsDaysEarlier days cutoff → now.IsDaysEarlier more earlier → earlier < cutoff) ∧
    (∀ days more, now.AcceptsDays more → 0 ≤ days → days ≤ more → now.AcceptsDays days) ∧
    (∀ value, checkedCutoff? value now = TemporalOperator.cutoff? value now) := by
  refine ⟨?_, fun days more cutoff earlier hdays _ hlt h h' => h.lt h' hnow hdays.1 hlt,
    fun days more h => h.mono, checkedCutoff?_eq hnow⟩
  intro less more value column style type htype hless hmore hvalue
  have hafter : (⟨some less, value⟩ : FilterEntry).condition? style column type now =
      (TemporalOperator.cutoff? value now).map (.after column) := by
    rw [condition?_of_token .lessThan hless rfl rfl (by decide) htype hvalue,
      TemporalOperator.predicate?, Option.map_map]
    simp only [Function.comp_def, condition_after]
  have hbefore : (⟨some more, value⟩ : FilterEntry).condition? style column type now =
      (TemporalOperator.cutoff? value now).map (.before column) := by
    rw [condition?_of_token .moreThan hmore rfl rfl (by decide) htype hvalue,
      TemporalOperator.predicate?, Option.map_map]
    simp only [Function.comp_def, condition_before]
  rw [hafter, hbefore]
  constructor
  · intro days hdays haccepts
    obtain ⟨n, rfl⟩ := Int.eq_ofNat_of_zero_le haccepts.1
    have hearlier := Instant.isDaysEarlier_daysBefore hnow n
    have hcutoff := (cutoff?_eq_some_iff hnow).2 ⟨n, hdays, haccepts, hearlier⟩
    refine ⟨now.daysBefore n, hearlier, by rw [hcutoff]; rfl, by rw [hcutoff]; rfl, ?_⟩
    intro t hne
    rcases Instant.lt_trichotomy t (now.daysBefore n) with hlt | heq | hgt
    · exact .inr ⟨hlt, Instant.lt_asymm hlt⟩
    · exact absurd heq hne
    · exact .inl ⟨hgt, Instant.lt_asymm hgt⟩
  · intro hnone
    have hcutoff : TemporalOperator.cutoff? value now = none := by
      rw [Option.eq_none_iff_forall_ne_some]
      intro cutoff h
      obtain ⟨days, hdays, haccepts, -⟩ := (cutoff?_eq_some_iff hnow).1 h
      exact hnone ⟨days, hdays, haccepts⟩
    rw [hcutoff]
    exact ⟨rfl, rfl⟩

/-- In the leap second at the end of 2016: three days ago, with a sign and a blank in front of the number.
The largest number of days that 64 bits hold is too far back, so it gives no condition. -/
theorem relative_cutoffs_are_exact_leap_second :
    (⟨1483228799, 1250000000⟩ : Instant).IsRepresentable ∧
    WritesInteger (Text.trim " +3").toList 3 ∧
    (⟨1483228799, 1250000000⟩ : Instant).AcceptsDays 3 ∧
    (∃ cutoff, (⟨1483228799, 1250000000⟩ : Instant).IsDaysEarlier 3 cutoff ∧
      (⟨some "less_than", " +3"⟩ : FilterEntry).condition? ⟨.sqlite, false⟩ "games.played_on" .date
        ⟨1483228799, 1250000000⟩ = some (.after "games.played_on" cutoff) ∧
      cutoff < ⟨1483228799, 1250000000⟩ ∧ cutoff = ⟨1482969600, 250000000⟩) ∧
    (⟨some "more_than", "9223372036854775807"⟩ : FilterEntry).condition? ⟨.sqlite, false⟩
      "games.played_on" .date ⟨1483228799, 1250000000⟩ = none := by
  have hnow : (⟨1483228799, 1250000000⟩ : Instant).IsRepresentable := ⟨by decide +kernel, by decide⟩
  have hwrites : WritesInteger (Text.trim " +3").toList 3 :=
    ⟨['3'], by decide, by decide, .inl ⟨.inr (by decide), by decide⟩⟩
  have hthree : (⟨1483228799, 1250000000⟩ : Instant).AcceptsDays 3 := by decide +kernel
  obtain ⟨hconditions, hearlier, hfewer, hchecked⟩ := relative_cutoffs_are_exact hnow
  obtain ⟨haccepts, -⟩ := hconditions "less_than" "more_than" " +3" "games.played_on" ⟨.sqlite, false⟩
    .date rfl (by decide) (by decide) (by decide)
  obtain ⟨cutoff, hcutoff, hless, -, -⟩ := haccepts 3 hwrites hthree
  have hnone : (⟨1483228799, 1250000000⟩ : Instant).IsDaysEarlier 0 ⟨1483228799, 1250000000⟩ :=
    ⟨by simp, rfl, fun _ => rfl, fun hne => absurd rfl hne⟩
  have hlt := hearlier 0 3 _ _ (hfewer 0 3 hthree (by decide) (by decide)) hthree (by decide) hnone hcutoff
  refine ⟨hnow, hwrites, hthree, ⟨cutoff, hcutoff, hless, hlt, ?_⟩, ?_⟩
  · exact hcutoff.unique (Instant.isDaysEarlier_daysBefore hnow 3)
  · have hcomputed : checkedCutoff? "9223372036854775807" ⟨1483228799, 1250000000⟩ = none := by
      decide +kernel
    rw [hchecked] at hcomputed
    refine (hconditions "less_than" "more_than" "9223372036854775807" "games.played_on"
      ⟨.sqlite, false⟩ .date rfl (by decide) (by decide) (by decide)).2 ?_ |>.2
    rintro ⟨days, hwrites, haccepts⟩
    obtain ⟨n, rfl⟩ := Int.eq_ofNat_of_zero_le haccepts.1
    rw [(cutoff?_eq_some_iff hnow).2 ⟨n, hwrites, haccepts, Instant.isDaysEarlier_daysBefore hnow n⟩]
      at hcomputed
    cases hcomputed

end AdminQuery
