import AdminQuery.Proofs.CatalogRuns

/-!
# What a description establishes

* `describe_eq_ok_iff`: a declaration is described when its kind is known and its key columns are
  identifiers
* `target?_of_describe`: the far side of an association is the declared target, unless it is polymorphic
* `isPolymorphic_of_describe`: an association is polymorphic when its declaration is
* `Environment.HasAssociation`: the associations of a record type
* `Environment.IsTarget`: the types that its associations lead to
* `resolve_eq_ok_iff_find?`: in a well-formed catalog, resolving a target is finding it in the registry
* `labelColumn?_eq_some`: a label is a textual column of the target, which is kept in another table
-/

namespace AdminQuery

/-- Only an association that belongs to its parent passes as polymorphic. -/
theorem Relationship.polymorphic_of_checkedKind {decl : Relationship} {kind : AssociationKind}
    (h : decl.checkedKind = .ok kind) (hp : decl.polymorphic = true) : kind = .belongsTo := by
  rw [Relationship.checkedKind] at h
  split at h
  · cases h
  · split at h
    · cases h
    · split at h
      · cases h
      · split at h
        · cases h
        · rename_i hkind
          cases h
          by_contra hne
          exact hkind ⟨hp, hne⟩

namespace Environment

/-! ### One declaration -/

/-- **A declaration is described when its kind is known and its key columns are identifiers.** -/
theorem describe_eq_ok_iff {env : Environment} {owner : RecordType} {decl : Relationship}
    {a : Association} :
    env.describe owner decl = .ok a ↔
      ∃ kind, decl.checkedKind = .ok kind ∧ a = env.describeKind owner kind decl ∧
        ∀ column ∈ a.keyColumns, Text.isIdentifier column = true := by
  have hdescribe : env.describe owner decl = .ok a ↔ env.describe? owner decl = .ok a := by
    rw [describe]
    cases env.describe? owner decl <;> simp [Except.mapError]
  rw [hdescribe, describe?, Fallible.bind_eq_ok_iff]
  refine exists_congr fun kind => and_congr_right fun _ => ?_
  dsimp only
  cases hbad : (env.describeKind owner kind decl).keyColumns.find? fun column =>
      !Text.isIdentifier column with
  | none =>
    have hgood : ∀ column ∈ (env.describeKind owner kind decl).keyColumns,
        Text.isIdentifier column = true := by simpa using hbad
    constructor
    · intro h
      cases h
      exact ⟨rfl, hgood⟩
    · rintro ⟨rfl, -⟩
      rfl
  | some column =>
    have hcolumn : ¬ ∀ column ∈ (env.describeKind owner kind decl).keyColumns,
        Text.isIdentifier column = true := fun h => by
      have hbad' := List.find?_some hbad
      simp [h column (List.mem_of_find?_eq_some hbad)] at hbad'
    constructor
    · intro h
      cases h
    · rintro ⟨rfl, h⟩
      exact absurd h hcolumn

theorem isIdentifier_childKey {env : Environment} {owner : RecordType} {decl : Relationship}
    {a : Association} (h : env.describe owner decl = .ok a) :
    Text.isIdentifier a.childKey = true := by
  obtain ⟨kind, -, -, hkeys⟩ := describe_eq_ok_iff.1 h
  exact hkeys a.childKey (by simp [Association.keyColumns])

/-- **The far side is the declared target, unless the association is polymorphic.** -/
theorem target?_of_describe {env : Environment} {owner : RecordType} {decl : Relationship}
    {a : Association} (h : env.describe owner decl = .ok a) :
    a.target? = if decl.polymorphic then none else some (decl.target owner) := by
  obtain ⟨kind, hkind, rfl, -⟩ := describe_eq_ok_iff.1 h
  cases hp : decl.polymorphic with
  | true =>
    rw [Relationship.polymorphic_of_checkedKind hkind hp]
    simp [describeKind, describeBelongsTo, Association.target?, hp]
  | false =>
    cases kind <;> simp [describeKind, describeBelongsTo, describeOwned, Association.target?, hp]

/-- An association is polymorphic when its declaration is. -/
theorem isPolymorphic_of_describe {env : Environment} {owner : RecordType} {decl : Relationship}
    {a : Association} (h : env.describe owner decl = .ok a) : a.isPolymorphic = decl.polymorphic := by
  obtain ⟨kind, hkind, rfl, -⟩ := describe_eq_ok_iff.1 h
  cases hp : decl.polymorphic with
  | true =>
    rw [Relationship.polymorphic_of_checkedKind hkind hp]
    simp [describeKind, describeBelongsTo, hp]
  | false => cases kind <;> simp [describeKind, describeBelongsTo, describeOwned, hp]

/-! ### The associations of a record type -/

/-- `a` is one of the associations of `record`. -/
def HasAssociation (env : Environment) (record : RecordType) (a : Association) : Prop :=
  ∃ associations, env.associations record = .ok associations ∧ a ∈ associations

/-- `related` is the registered type on the far side of an association of `record`. -/
def IsTarget (env : Environment) (record related : RecordType) : Prop :=
  ∃ a reference, env.HasAssociation record a ∧ a.target? = some reference ∧
    env.registry.find? reference.typeName = some related

theorem HasAssociation.exists_describe {env : Environment} {record : RecordType} {a : Association}
    (h : env.HasAssociation record a) : ∃ decl, env.describe record decl = .ok a := by
  obtain ⟨associations, hok, ha⟩ := h
  obtain ⟨decl, -, hdecl⟩ := Fallible.exists_of_mapM_eq_ok hok ha
  exact ⟨decl, hdecl⟩

/-- An association that needs no look-up leads back to its owner. -/
theorem HasAssociation.eq_of_resolved {env : Environment} {record related : RecordType}
    {a : Association} (h : env.HasAssociation record a) (ht : a.target? = some (.resolved related)) :
    related = record := by
  obtain ⟨decl, hdecl⟩ := h.exists_describe
  rw [target?_of_describe hdecl] at ht
  split at ht
  · cases ht
  · rw [Relationship.target] at ht
    split at ht
    · cases ht
      rfl
    · cases ht

/-- An association with one type on its far side is not polymorphic. -/
theorem HasAssociation.isPolymorphic_of_target? {env : Environment} {record : RecordType}
    {a : Association} {reference : TypeReference} (h : env.HasAssociation record a)
    (ht : a.target? = some reference) : a.isPolymorphic = false := by
  obtain ⟨decl, hdecl⟩ := h.exists_describe
  rw [target?_of_describe hdecl] at ht
  rw [isPolymorphic_of_describe hdecl]
  cases hp : decl.polymorphic with
  | true => simp [hp] at ht
  | false => rfl

/-- **In a well-formed catalog, resolving a target is finding it in the registry.** -/
theorem resolve_eq_ok_iff_find? {catalog : Catalog} (hc : catalog.WellFormed) {config : Config}
    {record related : RecordType} (hr : record ∈ catalog.recordTypes) {a : Association}
    (ha : (catalog.environment config).HasAssociation record a) {reference : TypeReference}
    (ht : a.target? = some reference) :
    reference.resolve catalog.registry = .ok related ↔
      catalog.registry.find? reference.typeName = some related := by
  cases reference with
  | resolved other =>
    rw [ha.eq_of_resolved ht]
    show Except.ok record = Except.ok related ↔ catalog.registry.find? record.name = some related
    rw [hc.registry_find?.2 ⟨hr, rfl⟩]
    simp
  | unresolved name =>
    show catalog.registry.lookup name = .ok related ↔ catalog.registry.find? name = some related
    rw [Registry.lookup]
    cases catalog.registry.find? name <;> simp

/-- **A label is a textual column of the target, which is kept in another table.** -/
theorem labelColumn?_eq_some {env : Environment} {record : RecordType} {a : Association}
    {column : String} (h : env.labelColumn? record a = .ok (some column)) :
    ∃ reference parent field, a.target? = some reference ∧
      reference.resolve env.registry = .ok parent ∧ parent.tableName ≠ record.tableName ∧
      field ∈ env.schema.fields parent ∧ field.storageType.isTextual = true ∧
      column = parent.qualified field.name := by
  rw [labelColumn?] at h
  split at h
  · cases h
  · rename_i reference ht
    obtain ⟨parent, hparent, h⟩ := Fallible.bind_eq_ok_iff.1 h
    split at h
    · cases h
    · rename_i htable
      simp only [pure, Except.pure, Except.ok.injEq, Option.map_eq_some_iff] at h
      obtain ⟨field, hfield, rfl⟩ := h
      obtain ⟨label, -, hlabel⟩ := List.exists_of_findSome?_eq_some hfield
      have hfound := List.find?_some hlabel
      simp only [Bool.and_eq_true] at hfound
      exact ⟨reference, parent, field, ht, hparent, htable, List.mem_of_find?_eq_some hlabel,
        hfound.2, rfl⟩

end Environment

end AdminQuery
