import AdminQuery.Proofs.Composition

/-!
# Filters put one behind the other

The condition of a filter map is made key by key, and that of a key group by group, so what is put
behind one another in a filter map is joined in its condition.

* `FilterEntry.Incomplete`: the entries that test nothing on a column of a storage type
* `predicate?_eq_none_iff`: **an entry gives no test exactly when it is incomplete**
* `Environment.keyCondition`: the condition of one key
* `filterCondition_eq_keys`: the condition of a filter map from those of its keys
* `filterCondition_append`, `keyCondition_append`: **keys are joined by `AND`, groups by `OR`**
* `filters_compose`: **both, and that what has no condition can be left out**
-/

namespace AdminQuery

/-! ### Entries that test nothing -/

/-- The value of an entry does not name the days that the operator asks for, or not all of them are
covered. -/
def TemporalOperator.NamesNoDay (op : TemporalOperator) (value : String) (now : Instant) : Prop :=
  match op with
  | today => False
  | yesterday => ¬(now.date.addDays (-1)).IsCovered
  | thisWeek => ¬(now.date.weekStart.IsCovered ∧ (now.date.weekStart.addDays 6).IsCovered)
  | lastWeek => ¬(now.date.weekStart.IsCovered ∧ (now.date.weekStart.addDays (-7)).IsCovered)
  | lessThan | moreThan => cutoff? value now = none
  | monthDayYear => Date.ofMonthDayYear? value = none
  | on => Date.ofIso? value = none
  | unknown => True

/-- The value of an entry is nothing that a column of a storage type could be tested against. -/
def FilterEntry.LacksValue (entry : FilterEntry) (now : Instant) : StorageType → Prop
  | .string | .text => Text.isAllBlank entry.value = true
  | .boolean => Text.trim entry.value ∉ ["false", "f", "0", "true", "t", "1"]
  | .integer => Number.integer? (Text.trim entry.value) = none
  | .float | .decimal =>
    ∀ x, Number.double? (Text.trim entry.value) = some x → x.isFinite = false
  | .enum => False
  | .date | .datetime | .timestamp =>
    (TemporalOperator.ofOperator entry.operator).NamesNoDay entry.value now
  | .binary => True

/-- An entry that is to be discarded, or that holds no control token and lacks a value. -/
def FilterEntry.Incomplete (entry : FilterEntry) (now : Instant) (type : StorageType) : Prop :=
  entry.controlToken? = some .discard ∨ entry.controlToken? = none ∧ entry.LacksValue now type

theorem namesNoDay_iff {op : TemporalOperator} {value : String} {now : Instant} :
    op.predicate? value now = none ↔ op.NamesNoDay value now := by
  cases op with
  | thisWeek =>
    simp [TemporalOperator.predicate?, TemporalOperator.NamesNoDay, Date.weekStart?_eq, Date.addDays?]
  | lastWeek =>
    simp only [TemporalOperator.predicate?, TemporalOperator.NamesNoDay, Date.weekStart?_eq, Date.addDays?]
    by_cases hnext : now.date.weekStart.IsCovered
    · by_cases hmonday : (now.date.weekStart.addDays (-7)).IsCovered
      · simp [hnext, hmonday, Date.isCovered_sunday_before hnext hmonday]
      · simp [hmonday]
    · simp [hnext]
  | _ => simp [TemporalOperator.predicate?, TemporalOperator.NamesNoDay, Date.addDays?_eq_none_iff]

theorem ofTruthText?_eq_none_iff {value : String} :
    Predicate.ofTruthText? value = none ↔
      Text.trim value ∉ ["false", "f", "0", "true", "t", "1"] := by
  rw [Predicate.ofTruthText?]
  by_cases hfalse : Text.trim value ∈ ["false", "f", "0"]
  · rw [if_pos (List.contains_iff_mem.2 hfalse)]
    have hmem : Text.trim value ∈ ["false", "f", "0", "true", "t", "1"] :=
      List.mem_append_left ["true", "t", "1"] hfalse
    simp [hmem]
  · rw [if_neg fun h => hfalse (List.contains_iff_mem.1 h)]
    by_cases htrue : Text.trim value ∈ ["true", "t", "1"]
    · rw [if_pos (List.contains_iff_mem.2 htrue)]
      have hmem : Text.trim value ∈ ["false", "f", "0", "true", "t", "1"] :=
        List.mem_append_right ["false", "f", "0"] htrue
      simp [hmem]
    · rw [if_neg fun h => htrue (List.contains_iff_mem.1 h)]
      have hmem : Text.trim value ∉ ["false", "f", "0"] ++ ["true", "t", "1"] := fun h =>
        (List.mem_append.1 h).elim hfalse htrue
      exact ⟨fun _ => hmem, fun _ => rfl⟩

theorem valuePredicate?_eq_none_iff {entry : FilterEntry} {style : PatternStyle} {type : StorageType}
    {now : Instant} : entry.valuePredicate? style type now = none ↔ entry.LacksValue now type := by
  rw [FilterEntry.valuePredicate?.eq_def, FilterEntry.LacksValue.eq_def]
  cases type with
  | string | text => simp [PatternStyle.predicate?]
  | boolean => exact ofTruthText?_eq_none_iff
  | integer => simp [Predicate.ofIntegerText?]
  | float | decimal => simp [Predicate.ofDecimalText?, Option.filter_eq_none_iff]
  | enum => simp
  | date | datetime | timestamp => exact namesNoDay_iff
  | binary => simp

/-- **An entry gives no test exactly when it is incomplete.** -/
theorem predicate?_eq_none_iff {entry : FilterEntry} {style : PatternStyle} {type : StorageType}
    {now : Instant} : entry.predicate? style type now = none ↔ entry.Incomplete now type := by
  rw [FilterEntry.predicate?, FilterEntry.Incomplete]
  cases htoken : entry.controlToken? with
  | some token => cases token <;> simp [ControlToken.predicate?]
  | none => simpa using valuePredicate?_eq_none_iff

/-! ### Key by key -/

namespace Condition

/-- The alternatives of two lists of atoms are those of each list. -/
theorem ofAlternatives_append (front back : List Atom) :
    ofAlternatives (front ++ back) = .any [ofAlternatives front, ofAlternatives back] := by
  rw [ofAlternatives, List.map_append]
  exact join_append " OR " _ _

theorem ofClauses_append (front back : List (List Atom)) :
    ofClauses (front ++ back) = .all [ofClauses front, ofClauses back] := by
  rw [ofClauses, List.map_append]
  exact join_append " AND " _ _

/-- An empty condition made of clauses binds nothing, so neither of two loses its values. -/
theorem bindings_all_ofClauses (front back : List (List Atom)) :
    (all [ofClauses front, ofClauses back]).bindings =
      (ofClauses front).bindings ++ (ofClauses back).bindings := by
  rw [all, bindings_join]
  · simp
  · intro c hc hempty
    have hclauses : c = ofClauses front ∨ c = ofClauses back := by simpa using hc
    rcases hclauses with rfl | rfl
    · exact bindings_join_of_isAlways hempty
    · exact bindings_join_of_isAlways hempty

/-- A key without atoms leaves no trace. -/
theorem ofClauses_append_nil_cons (front back : List (List Atom)) :
    ofClauses (front ++ [] :: back) = ofClauses (front ++ back) := by
  rw [ofClauses, ofClauses, List.map_append, List.map_append, List.map_cons]
  exact join_append_cons_of_isAlways rfl " AND " _ _

theorem ofAlternatives_eq_always_iff {atoms : List Atom} :
    ofAlternatives atoms = .always ↔ atoms = [] := by
  constructor
  · intro h
    have hempty := isAlways_ofAlternatives atoms
    rw [h] at hempty
    simpa using hempty.symm
  · rintro rfl
    rfl

end Condition

namespace Environment

variable {env : Environment} {record : RecordType}

/-- The condition of one key, without parentheses around it. -/
def keyCondition (env : Environment) (record : RecordType) (filter : FieldGroups) (now : Instant) :
    Except AssociationError Condition :=
  (env.fieldAtoms record filter now).map Condition.ofAlternatives

/-- **The condition of a filter map is that of each key in parentheses, joined by `AND`.** -/
theorem filterCondition_eq_keys (filters : FilterMap) (now : Instant) :
    env.filterCondition record filters now =
      (filters.fields.mapM fun filter => env.keyCondition record filter now).map fun keys =>
        .all (keys.map Condition.enclosed) := by
  simp only [keyCondition, Fallible.mapM_map]
  rw [filterCondition, filterClauses]
  cases filters.fields.mapM fun filter => env.fieldAtoms record filter now with
  | error e => rfl
  | ok clauses => simp [Except.map, Condition.ofClauses, Function.comp_def]

theorem filterClauses_append (front back : List FieldGroups) (now : Instant) :
    env.filterClauses record ⟨front ++ back⟩ now = do
      let clauses ← env.filterClauses record ⟨front⟩ now
      let others ← env.filterClauses record ⟨back⟩ now
      return clauses ++ others := by
  rw [filterClauses, List.mapM_append]
  rfl

/-- **Keys put one behind the other are joined by `AND`**; the first error is the error of both. -/
theorem filterCondition_append (front back : List FieldGroups) (now : Instant) :
    env.filterCondition record ⟨front ++ back⟩ now = do
      let c ← env.filterCondition record ⟨front⟩ now
      let d ← env.filterCondition record ⟨back⟩ now
      return .all [c, d] := by
  rw [filterCondition, filterClauses_append]
  exact Fallible.map_both Condition.ofClauses_append _ _

theorem fieldAtoms_append (key : String) (groups more : List (String × FilterEntry)) (now : Instant) :
    env.fieldAtoms record ⟨key, groups ++ more⟩ now = do
      let atoms ← env.fieldAtoms record ⟨key, groups⟩ now
      let others ← env.fieldAtoms record ⟨key, more⟩ now
      return atoms ++ others := by
  simp only [fieldAtoms]
  cases env.filterTarget record key with
  | error e => rfl
  | ok slots =>
    show Except.ok _ = Except.ok _
    rw [List.flatMap_append]

/-- **Groups put one behind the other are joined by `OR`.** -/
theorem keyCondition_append (key : String) (groups more : List (String × FilterEntry))
    (now : Instant) :
    env.keyCondition record ⟨key, groups ++ more⟩ now = do
      let c ← env.keyCondition record ⟨key, groups⟩ now
      let d ← env.keyCondition record ⟨key, more⟩ now
      return .any [c, d] := by
  rw [keyCondition, fieldAtoms_append]
  exact Fallible.map_both Condition.ofAlternatives_append _ _

/-! ### What has no condition -/

theorem keyCondition_eq_always_iff {filter : FieldGroups} {now : Instant} :
    env.keyCondition record filter now = .ok .always ↔ env.fieldAtoms record filter now = .ok [] := by
  rw [keyCondition, Fallible.map_eq_ok_iff]
  simp [Condition.ofAlternatives_eq_always_iff]

theorem groupAtoms_eq_nil_iff {slots : List Slot} {entry : FilterEntry} {now : Instant} :
    env.groupAtoms slots entry now = [] ↔ ∀ slot ∈ slots, entry.Incomplete now slot.type := by
  rw [groupAtoms, List.filterMap_eq_nil_iff]
  simp only [FilterEntry.atom?, Option.map_eq_none_iff, predicate?_eq_none_iff]

/-- **A group has no condition exactly when it is incomplete for every column of its key.** -/
theorem keyCondition_singleton_eq_always_iff {key : String} {slots : List Slot}
    (h : env.filterTarget record key = .ok slots) (name : String) (entry : FilterEntry)
    (now : Instant) :
    env.keyCondition record ⟨key, [(name, entry)]⟩ now = .ok .always ↔
      ∀ slot ∈ slots, entry.Incomplete now slot.type := by
  rw [keyCondition_eq_always_iff, fieldAtoms_of_filterTarget h, List.flatMap_singleton, Except.ok.injEq,
    groupAtoms_eq_nil_iff]

/-- A group without a condition leaves no trace in its key. -/
theorem fieldAtoms_append_cons {key : String} {group : String × FilterEntry} {now : Instant}
    (h : env.keyCondition record ⟨key, [group]⟩ now = .ok .always)
    (front back : List (String × FilterEntry)) :
    env.fieldAtoms record ⟨key, front ++ group :: back⟩ now =
      env.fieldAtoms record ⟨key, front ++ back⟩ now := by
  have hgroup := keyCondition_eq_always_iff.1 h
  have hback : env.fieldAtoms record ⟨key, group :: back⟩ now =
      env.fieldAtoms record ⟨key, back⟩ now := by
    rw [← List.singleton_append, fieldAtoms_append, hgroup]
    cases env.fieldAtoms record ⟨key, back⟩ now <;> rfl
  rw [fieldAtoms_append, fieldAtoms_append, hback]

theorem filterClauses_append_cons (front back : List FieldGroups) (filter : FieldGroups)
    (now : Instant) :
    env.filterClauses record ⟨front ++ filter :: back⟩ now = do
      let clauses ← env.filterClauses record ⟨front⟩ now
      let atoms ← env.fieldAtoms record filter now
      let others ← env.filterClauses record ⟨back⟩ now
      return clauses ++ atoms :: others := by
  have hcons : env.filterClauses record ⟨filter :: back⟩ now = do
      let atoms ← env.fieldAtoms record filter now
      let others ← env.filterClauses record ⟨back⟩ now
      return atoms :: others := List.mapM_cons
  rw [filterClauses_append, hcons]
  simp

/-- **A group without a condition leaves no trace in a filter map.** -/
theorem filterCondition_erase_group {key : String} {group : String × FilterEntry} {now : Instant}
    (h : env.keyCondition record ⟨key, [group]⟩ now = .ok .always) (front back : List FieldGroups)
    (before after : List (String × FilterEntry)) :
    env.filterCondition record ⟨front ++ ⟨key, before ++ group :: after⟩ :: back⟩ now =
      env.filterCondition record ⟨front ++ ⟨key, before ++ after⟩ :: back⟩ now := by
  rw [filterCondition, filterCondition, filterClauses_append_cons, filterClauses_append_cons,
    fieldAtoms_append_cons h]

/-- **A key without a condition leaves no trace in a filter map.** -/
theorem filterCondition_erase_key {filter : FieldGroups} {now : Instant}
    (h : env.keyCondition record filter now = .ok .always) (front back : List FieldGroups) :
    env.filterCondition record ⟨front ++ filter :: back⟩ now =
      env.filterCondition record ⟨front ++ back⟩ now := by
  rw [filterCondition, filterCondition, filterClauses_append_cons, filterClauses_append,
    keyCondition_eq_always_iff.1 h]
  cases env.filterClauses record ⟨front⟩ now with
  | error e => rfl
  | ok clauses =>
    cases env.filterClauses record ⟨back⟩ now with
    | error e => rfl
    | ok others =>
      show Except.ok (Condition.ofClauses (clauses ++ [] :: others)) =
        Except.ok (Condition.ofClauses (clauses ++ others))
      rw [Condition.ofClauses_append_nil_cons]

end Environment

/-- **The condition of filters put one behind the other is put together from theirs.**  Keys are joined by
`AND`, with the error of the first part that fails; the groups of a key are joined by `OR`; and groups or
keys that have no condition, because every entry in them is incomplete, can be left out. -/
theorem filters_compose (env : Environment) (record : RecordType) (now : Instant) :
    (∀ filters others : FilterMap,
      env.filterCondition record ⟨filters.fields ++ others.fields⟩ now = do
        let c ← env.filterCondition record filters now
        let d ← env.filterCondition record others now
        return .all [c, d]) ∧
    (∀ (filters others : FilterMap) (c d : Condition),
      env.filterCondition record filters now = .ok c →
      env.filterCondition record others now = .ok d →
      (Condition.all [c, d]).bindings = c.bindings ++ d.bindings) ∧
    (∀ filters : FilterMap, env.filterCondition record filters now =
      (filters.fields.mapM fun filter => env.keyCondition record filter now).map fun keys =>
        .all (keys.map Condition.enclosed)) ∧
    (∀ (key : String) (groups more : List (String × FilterEntry)),
      env.keyCondition record ⟨key, groups ++ more⟩ now = do
        let c ← env.keyCondition record ⟨key, groups⟩ now
        let d ← env.keyCondition record ⟨key, more⟩ now
        return .any [c, d]) ∧
    (∀ (front back : List FieldGroups) (key : String) (before after : List (String × FilterEntry))
      (group : String × FilterEntry), env.keyCondition record ⟨key, [group]⟩ now = .ok .always →
      env.filterCondition record ⟨front ++ ⟨key, before ++ group :: after⟩ :: back⟩ now =
        env.filterCondition record ⟨front ++ ⟨key, before ++ after⟩ :: back⟩ now) ∧
    (∀ (front back : List FieldGroups) (filter : FieldGroups),
      env.keyCondition record filter now = .ok .always →
      env.filterCondition record ⟨front ++ filter :: back⟩ now =
        env.filterCondition record ⟨front ++ back⟩ now) ∧
    (∀ (key name : String) (entry : FilterEntry) (slots : List Slot),
      env.filterTarget record key = .ok slots →
      (env.keyCondition record ⟨key, [(name, entry)]⟩ now = .ok .always ↔
        ∀ slot ∈ slots, entry.Incomplete now slot.type)) := by
  refine ⟨fun filters others => Environment.filterCondition_append _ _ _,
    fun filters others c d hc hd => ?_, fun filters => Environment.filterCondition_eq_keys _ _,
    fun key groups more => Environment.keyCondition_append _ _ _ _,
    fun front back key before after group h =>
      Environment.filterCondition_erase_group h front back before after,
    fun front back filter h => Environment.filterCondition_erase_key h front back,
    fun key name entry slots h => Environment.keyCondition_singleton_eq_always_iff h name entry now⟩
  obtain ⟨clauses, -, rfl⟩ := Fallible.map_eq_ok_iff.1 hc
  obtain ⟨others, -, rfl⟩ := Fallible.map_eq_ok_iff.1 hd
  exact Condition.bindings_all_ofClauses clauses others

namespace League

/-- Teams of one name. -/
def jets : FieldGroups :=
  ⟨"name", [("0", ⟨some "is", "Jets"⟩)]⟩

/-- Teams of one division. -/
def seventh : FieldGroups :=
  ⟨"division", [("0", ⟨none, "7"⟩)]⟩

/-- Teams founded on a day that is none. -/
def someday : FieldGroups :=
  ⟨"founded", [("0", ⟨some "is", "soon"⟩)]⟩

/-- Teams of one name and one division, with one more division to be discarded and a day that is none. -/
def scattered : FilterMap :=
  ⟨[jets, ⟨"division", seventh.groups ++ [("1", ⟨some "_discard", "8"⟩)]⟩, someday]⟩

/-- What teams of the one name meet. -/
def named : Condition :=
  ⟨"((teams.name LIKE ?))", [.text "Jets"]⟩

/-- What teams of the one division meet; its key may also be asked for by the name of the division. -/
def placed : Condition :=
  ⟨"((divisions.name LIKE ?) OR (teams.division_id = ?))", [.text "%7%", .integer 7]⟩

/-- The condition of a filter map of teams. -/
def filtered (filters : FilterMap) : Except AssociationError Condition :=
  (catalog.environment .default).filterCondition team.recordType filters ⟨0, 0⟩

/-- The condition of one key of such a filter map. -/
def keyed (filter : FieldGroups) : Except AssociationError Condition :=
  (catalog.environment .default).keyCondition team.recordType filter ⟨0, 0⟩

end League

open League in
/-- Of four groups under three keys, one is to be discarded and one asks for a day that is none: the
condition is that of the two others. -/
theorem filters_compose_league :
    keyed ⟨"division", [("1", ⟨some "_discard", "8"⟩)]⟩ = .ok .always ∧
    keyed someday = .ok .always ∧
    filtered ⟨[jets]⟩ = .ok named ∧ filtered ⟨[seventh]⟩ = .ok placed ∧
    filtered scattered = .ok (.all [named, placed]) ∧
    (Condition.all [named, placed]).bindings = named.bindings ++ placed.bindings := by
  obtain ⟨happend, hbindings, -, -, hgroup, hkey, hincomplete⟩ :=
    filters_compose (catalog.environment .default) team.recordType ⟨0, 0⟩
  have hdiscarded : keyed ⟨"division", [("1", ⟨some "_discard", "8"⟩)]⟩ = .ok .always := by
    decide +kernel
  have hslots : (catalog.environment .default).filterTarget team.recordType "founded" =
      .ok [⟨"teams.founded", .date⟩] := by decide +kernel
  have hsomeday : keyed someday = .ok .always := by
    refine (hincomplete "founded" "0" ⟨some "is", "soon"⟩ _ hslots).2 fun slot hslot => ?_
    obtain rfl := List.mem_singleton.1 hslot
    have hday : Date.ofIso? "soon" = none := by decide
    exact .inr ⟨by decide, hday⟩
  have hjets : filtered ⟨[jets]⟩ = .ok named := by decide +kernel
  have hseventh : filtered ⟨[seventh]⟩ = .ok placed := by decide +kernel
  refine ⟨hdiscarded, hsomeday, hjets, hseventh, ?_, hbindings _ _ named placed hjets hseventh⟩
  calc filtered scattered
      = filtered ⟨[jets, seventh, someday]⟩ :=
        hgroup [jets] [someday] "division" seventh.groups [] _ hdiscarded
    _ = filtered ⟨[jets, seventh]⟩ := hkey [jets, seventh] [] someday hsomeday
    _ = (do return .all [← filtered ⟨[jets]⟩, ← filtered ⟨[seventh]⟩]) :=
        happend ⟨[jets]⟩ ⟨[seventh]⟩
    _ = .ok (.all [named, placed]) := by
        rw [hjets, hseventh]
        rfl

end AdminQuery
