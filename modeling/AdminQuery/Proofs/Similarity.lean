import AdminQuery.Proofs.Composition
import AdminQuery.Proofs.Lists

/-!
# Filters that differ in values

* `FilterEntry.Similar`, `FilterMap.Similar`: what may differ
* `Predicate.Alike`, `Atom.Alike`, `Condition.Alike`: the same text, with as many values
* `alike_of_predicate?`: **similar entries give tests that are alike**
* `agree_filterClauses`: **similar filter maps fail alike, or have clauses that are alike**
* `alike_ofClauses`: clauses that are alike give conditions that are alike
-/

namespace AdminQuery

/-- Two entries with the same operator, and with values that are equal, or that are no control tokens,
are accepted alike whatever the storage type, and do not stand for opposite truth values. -/
structure FilterEntry.Similar (style : PatternStyle) (now : Instant) (e f : FilterEntry) : Prop where
  operator : e.operator = f.operator
  value : e.value = f.value ∨
    (ControlToken.ofText? e.value = none ∧ ControlToken.ofText? f.value = none) ∧
    (∀ type, (e.predicate? style type now).isSome = (f.predicate? style type now).isSome) ∧
    ¬(Text.trim e.value ∈ ["true", "t", "1"] ∧ Text.trim f.value ∈ ["false", "f", "0"]) ∧
    ¬(Text.trim e.value ∈ ["false", "f", "0"] ∧ Text.trim f.value ∈ ["true", "t", "1"])

theorem FilterEntry.Similar.eq_of_value {style : PatternStyle} {now : Instant} {e f : FilterEntry}
    (h : FilterEntry.Similar style now e f) (hvalue : e.value = f.value) : e = f := by
  obtain ⟨operator, value⟩ := e
  obtain ⟨_, _⟩ := f
  obtain ⟨rfl, -⟩ := h
  cases hvalue
  rfl

/-- The same key with similar entries, group by group, whatever the names of the groups. -/
structure FieldGroups.Similar (style : PatternStyle) (now : Instant) (p q : FieldGroups) : Prop where
  field : p.field = q.field
  groups : List.Forall₂ (fun g h => FilterEntry.Similar style now g.2 h.2) p.groups q.groups

/-- The same keys in the same order, with similar entries. -/
def FilterMap.Similar (style : PatternStyle) (now : Instant) (filters others : FilterMap) : Prop :=
  List.Forall₂ (FieldGroups.Similar style now) filters.fields others.fields

/-! ### Tests with the same text -/

/-- Tests with the same text on every column, and with as many values. -/
structure Predicate.Alike (p q : Predicate) : Prop where
  sql : ∀ column, p.sql column = q.sql column
  length : p.bindings.length = q.bindings.length

theorem Predicate.Alike.refl (p : Predicate) : p.Alike p :=
  ⟨fun _ => rfl, rfl⟩

theorem alike_equals (a b : Binding) : (Predicate.equals a).Alike (.equals b) :=
  ⟨fun _ => rfl, rfl⟩

/-- Two tests that are alike, or none at all. -/
def AlikeTests (p q : Option Predicate) : Prop :=
  Option.Rel Predicate.Alike p q

theorem alikeTests_refl (p : Option Predicate) : AlikeTests p p := by
  cases p with
  | none => exact .none
  | some p => exact .some (.refl p)

/-- Tests from one function of something that may be missing are alike when it is there for both. -/
theorem alikeTests_map {α : Type} {x y : Option α} {f : α → Predicate}
    (hf : ∀ a b, (f a).Alike (f b)) (h : (x.map f).isSome = (y.map f).isSome) :
    AlikeTests (x.map f) (y.map f) := by
  cases x with
  | none =>
    cases y with
    | none => exact .none
    | some b => cases h
  | some a =>
    cases y with
    | none => cases h
    | some b => exact .some (hf a b)

theorem alikeTests_of_pattern {style : PatternStyle} {position : MatchPosition} {v w : String}
    (h : (style.predicate? position v).isSome = (style.predicate? position w).isSome) :
    AlikeTests (style.predicate? position v) (style.predicate? position w) := by
  rw [PatternStyle.predicate?, PatternStyle.predicate?] at h ⊢
  by_cases hv : Text.isAllBlank v = true
  · by_cases hw : Text.isAllBlank w = true
    · rw [if_pos hv, if_pos hw]
      exact .none
    · rw [if_pos hv, if_neg hw] at h
      cases h
  · by_cases hw : Text.isAllBlank w = true
    · rw [if_neg hv, if_pos hw] at h
      cases h
    · rw [if_neg hv, if_neg hw]
      exact .some ⟨fun _ => rfl, rfl⟩

/-- The operator alone decides between days and one instant. -/
theorem alikeTests_of_temporal {op : TemporalOperator} {v w : String} {now : Instant}
    (h : (op.predicate? v now).isSome = (op.predicate? w now).isSome) :
    AlikeTests (op.predicate? v now) (op.predicate? w now) := by
  cases op with
  | today | yesterday | thisWeek | lastWeek | unknown => exact alikeTests_refl _
  | lessThan | moreThan | monthDayYear | on =>
    simp only [TemporalOperator.predicate?] at h ⊢
    exact alikeTests_map (fun _ _ => ⟨fun _ => rfl, rfl⟩) h

/-- Truth values are told apart by the text, so they must not be opposite. -/
theorem alikeTests_of_truth {v w : String}
    (h : (Predicate.ofTruthText? v).isSome = (Predicate.ofTruthText? w).isSome)
    (htrue : ¬(Text.trim v ∈ ["true", "t", "1"] ∧ Text.trim w ∈ ["false", "f", "0"]))
    (hfalse : ¬(Text.trim v ∈ ["false", "f", "0"] ∧ Text.trim w ∈ ["true", "t", "1"])) :
    AlikeTests (Predicate.ofTruthText? v) (Predicate.ofTruthText? w) := by
  simp only [Predicate.ofTruthText?, List.contains_iff_mem] at h ⊢
  by_cases hv : Text.trim v ∈ ["false", "f", "0"]
  · by_cases hw : Text.trim w ∈ ["false", "f", "0"]
    · rw [if_pos hv, if_pos hw]
      exact alikeTests_refl _
    · have hw' : Text.trim w ∉ ["true", "t", "1"] := fun hmem => hfalse ⟨hv, hmem⟩
      rw [if_pos hv, if_neg hw, if_neg hw'] at h
      cases h
  · rw [if_neg hv] at h ⊢
    by_cases hw : Text.trim w ∈ ["false", "f", "0"]
    · have hv' : Text.trim v ∉ ["true", "t", "1"] := fun hmem => htrue ⟨hmem, hw⟩
      rw [if_pos hw, if_neg hv'] at h
      cases h
    · rw [if_neg hw] at h ⊢
      split at h <;> split at h
      · rename_i hv' hw'
        rw [if_pos hv', if_pos hw']
        exact alikeTests_refl _
      · cases h
      · cases h
      · rename_i hv' hw'
        rw [if_neg hv', if_neg hw']
        exact alikeTests_refl _

/-- **Similar entries give tests that are alike, or none.** -/
theorem alike_of_predicate? {style : PatternStyle} {now : Instant} {e f : FilterEntry}
    (h : FilterEntry.Similar style now e f) (type : StorageType) :
    AlikeTests (e.predicate? style type now) (f.predicate? style type now) := by
  obtain ⟨operator, v⟩ := e
  obtain ⟨_, w⟩ := f
  obtain ⟨rfl, hvalue⟩ := h
  rcases hvalue with rfl | ⟨⟨hv, hw⟩, haccepted, htrue, hfalse⟩
  · exact alikeTests_refl _
  · replace haccepted := haccepted type
    simp only [FilterEntry.predicate?, FilterEntry.controlToken?] at haccepted hv hw ⊢
    rw [hv, hw] at haccepted ⊢
    -- Only the operator can still hold a token.
    cases htoken : ControlToken.earlier? none (operator.bind ControlToken.ofText?) with
    | some token => exact alikeTests_refl _
    | none =>
      simp only [htoken] at haccepted
      change AlikeTests (FilterEntry.valuePredicate? _ style type now)
        (FilterEntry.valuePredicate? _ style type now)
      rw [FilterEntry.valuePredicate?.eq_def, FilterEntry.valuePredicate?.eq_def] at haccepted ⊢
      cases type with
      | string | text => exact alikeTests_of_pattern haccepted
      | date | datetime | timestamp => exact alikeTests_of_temporal haccepted
      | boolean => exact alikeTests_of_truth haccepted htrue hfalse
      | integer | float | decimal => exact alikeTests_map (fun _ _ => alike_equals _ _) haccepted
      | enum => exact .some ⟨fun _ => rfl, rfl⟩
      | binary => exact .none

/-! ### Conditions with the same text -/

/-- Tests that are alike, on one column. -/
structure Atom.Alike (a b : Atom) : Prop where
  column : a.column = b.column
  predicate : a.predicate.Alike b.predicate

/-- Conditions with the same text, and with as many values. -/
structure Condition.Alike (c d : Condition) : Prop where
  sql : c.sql = d.sql
  length : c.bindings.length = d.bindings.length

theorem Atom.Alike.condition {a b : Atom} (h : a.Alike b) : a.condition.Alike b.condition where
  sql := by
    rw [Atom.condition, Atom.condition, h.column, h.predicate.sql]
  length := h.predicate.length

theorem alike_groupAtoms (env : Environment) {now : Instant} {e f : FilterEntry}
    (h : FilterEntry.Similar env.config.patternStyle now e f) (slots : List Slot) :
    List.Forall₂ Atom.Alike (env.groupAtoms slots e now) (env.groupAtoms slots f now) := by
  induction slots with
  | nil => exact .nil
  | cons slot rest ih =>
    have htests := alike_of_predicate? h slot.type
    simp only [Environment.groupAtoms, List.filterMap_cons, FilterEntry.atom?] at ih ⊢
    generalize e.predicate? env.config.patternStyle slot.type now = p,
      f.predicate? env.config.patternStyle slot.type now = q at htests
    cases htests with
    | none => exact ih
    | some hpq => exact .cons ⟨rfl, hpq⟩ ih

/-- The names of groups are not read. -/
theorem Environment.filterClauses_congr (env : Environment) (record : RecordType) (now : Instant)
    {filters others : FilterMap}
    (h : List.Forall₂ (fun p q => p.field = q.field ∧ p.groups.map Prod.snd = q.groups.map Prod.snd)
      filters.fields others.fields) :
    env.filterClauses record filters now = env.filterClauses record others now := by
  rw [filterClauses, filterClauses]
  generalize filters.fields = keys, others.fields = rest at h
  induction h with
  | nil => rfl
  | @cons p q ps qs hpq _ ih =>
    have hatoms : ∀ slots, (p.groups.flatMap fun group => env.groupAtoms slots group.2 now) =
        q.groups.flatMap fun group => env.groupAtoms slots group.2 now := by
      intro slots
      have hmap := congrArg (List.flatMap fun entry => env.groupAtoms slots entry now) hpq.2
      simpa only [List.flatMap_map] using hmap
    have hfield : env.fieldAtoms record p now = env.fieldAtoms record q now := by
      simp only [fieldAtoms, hpq.1, hatoms]
    rw [List.mapM_cons, List.mapM_cons, hfield, ih]

/-- **Similar filter maps fail alike, or have clauses that are alike.** -/
theorem agree_filterClauses (env : Environment) (record : RecordType) {now : Instant}
    {filters others : FilterMap} (h : FilterMap.Similar env.config.patternStyle now filters others) :
    Fallible.Agree (List.Forall₂ (List.Forall₂ Atom.Alike)) (env.filterClauses record filters now)
      (env.filterClauses record others now) := by
  refine Fallible.agree_mapM (fun {p q} hpq => ?_) h
  simp only [Environment.fieldAtoms, hpq.field]
  cases env.filterTarget record q.field with
  | error e => exact .error e
  | ok slots =>
    have hatoms : List.Forall₂ Atom.Alike
        (p.groups.flatMap fun group => env.groupAtoms slots group.2 now)
        (q.groups.flatMap fun group => env.groupAtoms slots group.2 now) :=
      forall₂_flatMap hpq.groups fun _ _ hgh => alike_groupAtoms env hgh slots
    exact .ok hatoms

namespace Condition

theorem alike_join (separator : String) {parts others : List Condition}
    (h : List.Forall₂ Alike parts others) : (join separator parts).Alike (join separator others) := by
  have hpresent : (present parts).map sql = (present others).map sql ∧
      ((present parts).flatMap bindings).length = ((present others).flatMap bindings).length := by
    induction h with
    | nil => exact ⟨rfl, rfl⟩
    | @cons c d parts others hcd _ ih =>
      have hempty : c.isAlways = d.isAlways := by
        rw [isAlways, isAlways, hcd.sql]
      cases hd : d.isAlways with
      | true => simpa [present, hempty, hd] using ih
      | false => simpa [present, hempty, hd, hcd.sql, hcd.length] using ih
  rw [join_eq_present, join_eq_present]
  exact ⟨congrArg separator.intercalate hpresent.1, hpresent.2⟩

theorem Alike.enclosed {c d : Condition} (h : c.Alike d) : c.enclosed.Alike d.enclosed := by
  have hempty : c.isAlways = d.isAlways := by
    rw [isAlways, isAlways, h.sql]
  rw [Condition.enclosed, Condition.enclosed, hempty]
  split
  · exact h
  · exact ⟨congrArg (fun text => "(" ++ text ++ ")") h.sql, h.length⟩

theorem alike_ofAlternatives {atoms others : List Atom} (h : List.Forall₂ Atom.Alike atoms others) :
    (ofAlternatives atoms).Alike (ofAlternatives others) := by
  refine alike_join _ (List.forall₂_map_left_iff.2 (List.forall₂_map_right_iff.2 ?_))
  exact h.imp fun _ _ => Atom.Alike.condition

/-- Clauses that are alike give conditions that are alike. -/
theorem alike_ofClauses {clauses others : List (List Atom)}
    (h : List.Forall₂ (List.Forall₂ Atom.Alike) clauses others) :
    (ofClauses clauses).Alike (ofClauses others) := by
  refine alike_join _ (List.forall₂_map_left_iff.2 (List.forall₂_map_right_iff.2 ?_))
  exact h.imp fun _ _ hatoms => (alike_ofAlternatives hatoms).enclosed

end Condition

end AdminQuery
