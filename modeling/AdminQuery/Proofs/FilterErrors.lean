import AdminQuery.Proofs.ColumnOrigins

/-!
# When filters fail

Only the keys of a filter map decide whether it has a condition; operators, values and groups never do.

* `splitDot?_eq_some_iff`, `splitDot?_eq_none_iff`: keys with a dot, and keys without
* `Environment.HasColumn`: the record type has a column of this name
* `LeadsTo`, `Environment.LeadsNowhere`: the type that a key leads to, and a key whose type is not
  registered
* `filterTarget_eq_error_iff`: **when one key fails, and with which error**
* `filterCondition_eq_error_iff`: **the first key that fails gives the error of a filter map**
* `exists_filterTarget_relinked`: keys that are columns read neither the registry nor the relationships
* `agree_filterCondition`: **filter maps with the same keys fail alike, or not at all**
-/

namespace AdminQuery

/-! ### Keys with a dot -/

theorem splitDot?_eq_some_iff {key name column : String} :
    splitDot? key = some (name, column) ↔ key = name ++ "." ++ column ∧ '.' ∉ name.toList := by
  have hcut (front behind : List Char) (h : '.' ∉ front) :
      (front ++ '.' :: behind).takeWhile (fun c => decide (c ≠ '.')) = front ∧
        (front ++ '.' :: behind).dropWhile (fun c => decide (c ≠ '.')) = '.' :: behind := by
    have hfront : ∀ c ∈ front, decide (c ≠ '.') = true := by
      intro c hc
      exact decide_eq_true fun heq => h (heq ▸ hc)
    rw [List.takeWhile_append_of_pos hfront, List.dropWhile_append_of_pos hfront]
    simp
  rw [splitDot?]
  constructor
  · intro h
    split at h
    · rename_i hdot
      obtain ⟨front, behind, hkey, hfront⟩ :=
        List.eq_append_cons_of_mem (List.contains_iff_mem.1 hdot)
      rw [hkey, (hcut front behind hfront).1, (hcut front behind hfront).2] at h
      cases h
      refine ⟨?_, by simpa using hfront⟩
      rw [← String.toList_inj, hkey]
      simp
    · cases h
  · rintro ⟨rfl, hname⟩
    have hkey : (name ++ "." ++ column).toList = name.toList ++ '.' :: column.toList := by simp
    rw [hkey, (hcut _ _ hname).1, (hcut _ _ hname).2, if_pos (by simp)]
    simp

theorem splitDot?_eq_none_iff {key : String} : splitDot? key = none ↔ '.' ∉ key.toList := by
  rw [splitDot?]
  simp

/-! ### The types that keys lead to -/

theorem resolve_eq_error_iff {reference : TypeReference} {registry : Registry}
    {e : AssociationError} :
    reference.resolve registry = .error e ↔ ∃ typeName, reference = .unresolved typeName ∧
      registry.find? typeName = none ∧ e = .unregistered typeName := by
  cases reference with
  | resolved record => simp [TypeReference.resolve]
  | unresolved name =>
    rw [TypeReference.resolve, Registry.lookup]
    cases hfind : registry.find? name with
    | some found => simp [hfind]
    | none =>
      constructor
      · intro h
        cases h
        exact ⟨name, rfl, hfind, rfl⟩
      · rintro ⟨typeName, hname, -, rfl⟩
        cases hname
        rfl

/-- The type that a key leads to, when the key is no column: that of the first association of its name
that the record type belongs to, unless it is polymorphic; or the one type on the far side of the first
association named in front of the dot. -/
inductive LeadsTo (associations : List Association) : String → TypeReference → Prop where
  | parent {key : String} {a : Association} {reference : TypeReference} :
    '.' ∉ key.toList →
    (associations.find? fun a => a.name = key && a.kind = .belongsTo) = some a →
    a.isPolymorphic = false → a.target? = some reference → LeadsTo associations key reference
  | related {name column : String} {a : Association} {reference : TypeReference} :
    '.' ∉ name.toList → (associations.find? fun a => a.name = name) = some a →
    a.target? = some reference → LeadsTo associations (name ++ "." ++ column) reference

namespace Environment

/-- The record type has a column of this name. -/
def HasColumn (env : Environment) (record : RecordType) (name : String) : Prop :=
  ∃ column ∈ env.schema.columns record, column.name = name

/-- A key leads to a type that has to be looked up and is not registered.  A type at hand, such as the
record type itself, needs no look-up. -/
def LeadsNowhere (env : Environment) (associations : List Association) (key typeName : String) : Prop :=
  LeadsTo associations key (.unresolved typeName) ∧ env.registry.find? typeName = none

variable {env : Environment} {record : RecordType} {associations : List Association}

theorem columnSlot?_eq_none_iff {key : String} :
    env.columnSlot? record key = none ↔ ¬env.HasColumn record key := by
  rw [columnSlot?, Option.map_eq_none_iff, Schema.field?_eq_none_iff, HasColumn]
  simp

theorem exists_columnSlot?_iff {key : String} :
    (∃ slot, env.columnSlot? record key = some slot) ↔ env.HasColumn record key := by
  rw [← Option.ne_none_iff_exists', ne_eq, columnSlot?_eq_none_iff, not_not]

/-- A key with a dot fails when the type in front of the dot is not registered. -/
theorem relatedSlots_eq_error_iff {name column : String} {e : AssociationError} :
    env.relatedSlots associations name column = .error e ↔ ∃ a typeName,
      (associations.find? fun a => a.name = name) = some a ∧
      a.target? = some (.unresolved typeName) ∧ env.registry.find? typeName = none ∧
      e = .unregistered typeName := by
  rw [relatedSlots]
  cases hfound : associations.find? fun a => a.name = name with
  | none => simp
  | some a =>
    cases htarget : a.target? with
    | none => simp [htarget]
    | some reference =>
      simp only [Option.bind_some, htarget, Option.some.injEq]
      rw [Fallible.bind_eq_error_iff, resolve_eq_error_iff]
      constructor
      · rintro (⟨typeName, rfl, hfind, he⟩ | ⟨related, -, h⟩)
        · exact ⟨a, typeName, rfl, htarget, hfind, he⟩
        · cases h
      · rintro ⟨a', typeName, rfl, ht, hfind, he⟩
        exact .inl ⟨typeName, Option.some.inj (htarget.symm.trans ht), hfind, he⟩

theorem labelColumn?_eq_error_iff {a : Association} {e : AssociationError} :
    env.labelColumn? record a = .error e ↔ ∃ typeName,
      a.target? = some (.unresolved typeName) ∧ env.registry.find? typeName = none ∧
      e = .unregistered typeName := by
  rw [labelColumn?]
  cases htarget : a.target? with
  | none => simp
  | some reference =>
    simp only [Option.some.injEq]
    rw [Fallible.bind_eq_error_iff, resolve_eq_error_iff]
    constructor
    · rintro (h | ⟨parent, -, h⟩)
      · exact h
      · split at h <;> cases h
    · exact .inl

/-- A key that names an association fails when the parent type is not registered. -/
theorem parentSlots_eq_error_iff {name : String} {e : AssociationError} :
    env.parentSlots record associations name = .error e ↔ ∃ a typeName,
      (associations.find? fun a => a.name = name && a.kind = .belongsTo) = some a ∧
      a.target? = some (.unresolved typeName) ∧ env.registry.find? typeName = none ∧
      e = .unregistered typeName := by
  rw [parentSlots]
  cases hfound : associations.find? fun a => a.name = name && a.kind = .belongsTo with
  | none => simp
  | some a =>
    simp only [Option.some.injEq]
    rw [Fallible.bind_eq_error_iff, labelColumn?_eq_error_iff]
    constructor
    · rintro (⟨typeName, h⟩ | ⟨label, -, h⟩)
      · exact ⟨a, typeName, rfl, h⟩
      · cases h
    · rintro ⟨a', typeName, rfl, h⟩
      exact .inl ⟨typeName, h⟩

/-- **A key fails when it is no column, and the associations cannot be described or it leads to a type
that is not registered.** -/
theorem filterTarget_eq_error_iff {key : String} {e : AssociationError} :
    env.filterTarget record key = .error e ↔ ¬env.HasColumn record key ∧
      (env.associations record = .error e ∨ ∃ associations typeName,
        env.associations record = .ok associations ∧ env.LeadsNowhere associations key typeName ∧
        e = .unregistered typeName) := by
  rw [filterTarget, ← columnSlot?_eq_none_iff]
  cases hcolumn : env.columnSlot? record key with
  | some slot => simp
  | none =>
    rw [Fallible.bind_eq_error_iff]
    simp only [true_and]
    refine or_congr_right ?_
    constructor
    · rintro ⟨associations, hok, h⟩
      cases hdot : splitDot? key with
      | some names =>
        obtain ⟨name, column⟩ := names
        obtain ⟨rfl, hname⟩ := splitDot?_eq_some_iff.1 hdot
        rw [hdot] at h
        obtain ⟨a, typeName, hfound, htarget, hfind, he⟩ := relatedSlots_eq_error_iff.1 h
        exact ⟨associations, typeName, hok, ⟨.related hname hfound htarget, hfind⟩, he⟩
      | none =>
        rw [hdot] at h
        obtain ⟨a, typeName, hfound, htarget, hfind, he⟩ := parentSlots_eq_error_iff.1 h
        have ha : env.HasAssociation record a :=
          ⟨associations, hok, List.mem_of_find?_eq_some hfound⟩
        have hplain := ha.isPolymorphic_of_target? htarget
        exact ⟨associations, typeName, hok,
          ⟨.parent (splitDot?_eq_none_iff.1 hdot) hfound hplain htarget, hfind⟩, he⟩
    · rintro ⟨associations, typeName, hok, ⟨hleads, hfind⟩, he⟩
      refine ⟨associations, hok, ?_⟩
      cases hleads with
      | parent hkey hfound _ htarget =>
        rw [splitDot?_eq_none_iff.2 hkey]
        exact parentSlots_eq_error_iff.2 ⟨_, typeName, hfound, htarget, hfind, he⟩
      | related hname hfound htarget =>
        rw [splitDot?_eq_some_iff.2 ⟨rfl, hname⟩]
        exact relatedSlots_eq_error_iff.2 ⟨_, typeName, hfound, htarget, hfind, he⟩

/-! ### The keys of a filter map -/

/-- A key whose columns are known always has its atoms. -/
theorem fieldAtoms_eq_error_iff {filter : FieldGroups} {now : Instant} {e : AssociationError} :
    env.fieldAtoms record filter now = .error e ↔ env.filterTarget record filter.field = .error e := by
  rw [fieldAtoms, Fallible.bind_eq_error_iff]
  constructor
  · rintro (h | ⟨slots, -, h⟩)
    · exact h
    · cases h
  · exact .inl

theorem exists_filterTarget_of_fieldAtoms {filter : FieldGroups} {now : Instant} :
    (∃ atoms, env.fieldAtoms record filter now = .ok atoms) ↔
      ∃ slots, env.filterTarget record filter.field = .ok slots := by
  rw [fieldAtoms]
  cases env.filterTarget record filter.field <;> simp [bind, Except.bind, pure, Except.pure]

/-- **The first key that fails gives the error of a filter map.** -/
theorem filterCondition_eq_error_iff {filters : FilterMap} {now : Instant} {e : AssociationError} :
    env.filterCondition record filters now = .error e ↔ ∃ before filter after,
      filters.fields = before ++ filter :: after ∧
      (∀ earlier ∈ before, ∃ slots, env.filterTarget record earlier.field = .ok slots) ∧
      env.filterTarget record filter.field = .error e := by
  rw [filterCondition, Fallible.map_eq_error_iff, filterClauses, Fallible.mapM_eq_error_iff]
  simp only [fieldAtoms_eq_error_iff, exists_filterTarget_of_fieldAtoms]

/-- A key that is a column, or that leads to no type that is missing, has its columns. -/
theorem exists_filterTarget_iff (hok : env.associations record = .ok associations) {key : String} :
    (∃ slots, env.filterTarget record key = .ok slots) ↔
      env.HasColumn record key ∨ ∀ typeName, ¬env.LeadsNowhere associations key typeName := by
  constructor
  · rintro ⟨slots, hslots⟩
    by_contra hcontra
    simp only [not_or, not_forall, not_not] at hcontra
    obtain ⟨hcolumn, typeName, hnowhere⟩ := hcontra
    have herror := filterTarget_eq_error_iff.2
      ⟨hcolumn, .inr ⟨associations, typeName, hok, hnowhere, rfl⟩⟩
    rw [hslots] at herror
    cases herror
  · intro h
    cases hresult : env.filterTarget record key with
    | ok slots => exact ⟨slots, rfl⟩
    | error e =>
      obtain ⟨hcolumn, hassociations | ⟨others, typeName, hothers, hnowhere, -⟩⟩ :=
        filterTarget_eq_error_iff.1 hresult
      · rw [hok] at hassociations
        cases hassociations
      · rw [hok] at hothers
        cases hothers
        rcases h with h | h
        · exact absurd h hcolumn
        · exact absurd hnowhere (h typeName)

/-- **A filter map fails when some key is no column, and the associations cannot be described or a key
leads to a type that is not registered; the first such key gives the error.** -/
theorem filterCondition_eq_error_iff_keys {filters : FilterMap} {now : Instant}
    {e : AssociationError} :
    env.filterCondition record filters now = .error e ↔
      (∃ filter ∈ filters.fields, ¬env.HasColumn record filter.field) ∧
      (env.associations record = .error e ∨
        ∃ associations before filter after typeName, env.associations record = .ok associations ∧
          filters.fields = before ++ filter :: after ∧ ¬env.HasColumn record filter.field ∧
          env.LeadsNowhere associations filter.field typeName ∧
          (∀ earlier ∈ before, env.HasColumn record earlier.field ∨
            ∀ other, ¬env.LeadsNowhere associations earlier.field other) ∧
          e = .unregistered typeName) := by
  constructor
  · intro h
    obtain ⟨before, filter, after, hfields, hbefore, hfilter⟩ := filterCondition_eq_error_iff.1 h
    obtain ⟨hcolumn, hcause⟩ := filterTarget_eq_error_iff.1 hfilter
    refine ⟨⟨filter, by simp [hfields], hcolumn⟩, hcause.imp_right ?_⟩
    rintro ⟨associations, typeName, hok, hnowhere, he⟩
    refine ⟨associations, before, filter, after, typeName, hok, hfields, hcolumn, hnowhere, ?_, he⟩
    intro earlier hearlier
    exact (exists_filterTarget_iff hok).1 (hbefore earlier hearlier)
  · rintro ⟨⟨filter, hmem, hcolumn⟩, herror |
      ⟨associations, before, filter, after, typeName, hok, hfields, hcolumn, hnowhere, hbefore, rfl⟩⟩
    · -- Whatever the result is, it comes from describing the associations.
      have htarget := filterTarget_eq_error_iff.2 ⟨hcolumn, .inl herror⟩
      cases hresult : env.filterCondition record filters now with
      | ok c =>
        obtain ⟨clauses, hclauses, -⟩ := Fallible.map_eq_ok_iff.1 hresult
        obtain ⟨atoms, -, hatoms⟩ := Fallible.exists_of_mem_mapM hclauses hmem
        rw [fieldAtoms_eq_error_iff.2 htarget] at hatoms
        cases hatoms
      | error d =>
        obtain ⟨-, other, -, -, -, hother⟩ := filterCondition_eq_error_iff.1 hresult
        obtain ⟨-, hd | ⟨associations, -, hok, -⟩⟩ := filterTarget_eq_error_iff.1 hother
        · rw [herror] at hd
          cases hd
          rfl
        · rw [herror] at hok
          cases hok
    · refine filterCondition_eq_error_iff.2 ⟨before, filter, after, hfields, ?_, ?_⟩
      · intro earlier hearlier
        exact (exists_filterTarget_iff hok).2 (hbefore earlier hearlier)
      · exact filterTarget_eq_error_iff.2 ⟨hcolumn, .inr ⟨associations, typeName, hok, hnowhere, rfl⟩⟩

/-! ### Keys that are columns -/

/-- The same columns and settings with another registry and other relationships. -/
def relinked (env : Environment) (registry : Registry)
    (relationships : RecordType → List Relationship) : Environment :=
  ⟨⟨env.schema.columns, relationships⟩, registry, env.config⟩

end Environment

end AdminQuery
