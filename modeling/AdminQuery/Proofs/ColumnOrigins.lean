import AdminQuery.Listing.Query
import AdminQuery.Proofs.Associations

/-!
# Where the columns of a condition come from

Keys and terms only select columns; the names themselves are declared in the catalog, or checked when
an association is described.

* `Catalog.Declares`: a catalog declares a column of a record type
* `Catalog.Origin`: the columns that a condition on a record type may name, with their storage types
* `Origin.isIdentifier`: **both halves of such a column are identifiers**
* `Environment.KeySlots`: what a filter key stands for, case by case
* `keySlots_of_filterTarget`: **a key that can be resolved stands for one of these cases**
* `Catalog.TestedAs`: a column with an origin, and the storage type that tests on it go by
* `foldl_addColumn`: columns are listed once, where they first appear
* `testedAs_of_filterTarget`, `testedAs_of_searchColumns`: the columns of filters and of searches
-/

namespace AdminQuery

namespace Catalog

/-- The catalog declares `column` as a column of `record`. -/
def Declares (catalog : Catalog) (record : RecordType) (column : Column) : Prop :=
  ∃ decl ∈ catalog.types, decl.recordType = record ∧ column ∈ decl.columns

/-- The columns that a condition on `record` may name, as table, name and the storage type that their
tests go by. -/
inductive Origin (catalog : Catalog) (config : Config) (record : RecordType) :
    String → String → StorageType → Prop where
  /-- A column of the record type itself. -/
  | own {column : Column} :
    catalog.Declares record column →
    Origin catalog config record record.tableName column.name (.ofSqlType column.sqlType)
  /-- The key of an association that the record type belongs to, not declared as a column. -/
  | key {a : Association} :
    (catalog.environment config).HasAssociation record a → a.kind = .belongsTo →
    (∀ column, catalog.Declares record column → column.name ≠ a.childKey) →
    Origin catalog config record record.tableName a.childKey .integer
  /-- A column of the registered target of an association. -/
  | related {related : RecordType} {column : Column} :
    (catalog.environment config).IsTarget record related → catalog.Declares related column →
    Origin catalog config record related.tableName column.name (.ofSqlType column.sqlType)

/-! ### Declared names -/

theorem mem_recordTypes_of_declares {catalog : Catalog} {record : RecordType} {column : Column}
    (h : catalog.Declares record column) : record ∈ catalog.recordTypes := by
  obtain ⟨decl, hdecl, rfl, -⟩ := h
  exact List.mem_map_of_mem hdecl

/-- The columns that the store tells of a type are the declared ones. -/
theorem WellFormed.mem_columns_iff {catalog : Catalog} (h : catalog.WellFormed) {record : RecordType}
    (hr : record ∈ catalog.recordTypes) {column : Column} :
    column ∈ catalog.schema.columns record ↔ catalog.Declares record column := by
  obtain ⟨decl, hdecl, rfl⟩ := List.mem_map.1 hr
  have hget : catalog.get? decl.recordType.name = some decl := get?_of_mem h hdecl
  have hcolumns : catalog.schema.columns decl.recordType = decl.columns := by
    simp only [schema, hget, Option.map_some, Option.getD_some]
  rw [hcolumns]
  constructor
  · intro hc
    exact ⟨decl, hdecl, rfl, hc⟩
  · rintro ⟨other, hother, heq, hc⟩
    have hname : other.name = decl.name := congrArg RecordType.name heq
    rwa [← List.inj_on_of_nodup_map h.names_nodup hother hdecl hname]

theorem WellFormed.isIdentifier_tableName {catalog : Catalog} (h : catalog.WellFormed)
    {record : RecordType} (hr : record ∈ catalog.recordTypes) :
    Text.isIdentifier record.tableName = true := by
  obtain ⟨decl, hdecl, rfl⟩ := List.mem_map.1 hr
  exact h.identifiers decl hdecl _ (by simp [TypeDeclaration.identifiers])

theorem WellFormed.isIdentifier_primaryKey {catalog : Catalog} (h : catalog.WellFormed)
    {record : RecordType} (hr : record ∈ catalog.recordTypes) :
    Text.isIdentifier record.primaryKey = true := by
  obtain ⟨decl, hdecl, rfl⟩ := List.mem_map.1 hr
  exact h.identifiers decl hdecl _ (by simp [TypeDeclaration.identifiers])

theorem WellFormed.isIdentifier_column {catalog : Catalog} (h : catalog.WellFormed)
    {record : RecordType} {column : Column} (hc : catalog.Declares record column) :
    Text.isIdentifier column.name = true := by
  obtain ⟨decl, hdecl, -, hmem⟩ := hc
  refine h.identifiers decl hdecl _ ?_
  rw [TypeDeclaration.identifiers]
  exact List.mem_append_right _ (List.mem_map_of_mem hmem)

/-- **Both halves of a column that a condition may name are identifiers.** -/
theorem Origin.isIdentifier {catalog : Catalog} (h : catalog.WellFormed) {config : Config}
    {record : RecordType} (hr : record ∈ catalog.recordTypes) {table name : String}
    {type : StorageType} (ho : catalog.Origin config record table name type) :
    Text.isIdentifier table = true ∧ Text.isIdentifier name = true := by
  cases ho with
  | own hc => exact ⟨h.isIdentifier_tableName hr, h.isIdentifier_column hc⟩
  | key ha _ _ =>
    obtain ⟨decl, hdecl⟩ := ha.exists_describe
    exact ⟨h.isIdentifier_tableName hr, Environment.isIdentifier_childKey hdecl⟩
  | related _ hc =>
    exact ⟨h.isIdentifier_tableName (mem_recordTypes_of_declares hc), h.isIdentifier_column hc⟩

end Catalog

namespace Environment

/-! ### What a filter key stands for -/

/-- The slots of a filter key, by what the key names. -/
inductive KeySlots (env : Environment) (record : RecordType) (key : String) : List Slot → Prop where
  /-- A column of the record type. -/
  | column {slot : Slot} : env.columnSlot? record key = some slot → KeySlots env record key [slot]
  /-- A column behind a dot, of the type on the far side of the association in front of it. -/
  | related {name column : String} {a : Association} {reference : TypeReference}
      {related : RecordType} :
    env.columnSlot? record key = none → splitDot? key = some (name, column) →
    env.HasAssociation record a → a.name = name → a.target? = some reference →
    reference.resolve env.registry = .ok related →
    KeySlots env record key (env.columnSlot? related column).toList
  /-- An association that the record type belongs to: its label if it has one, then its key. -/
  | parent {a : Association} {label : Option String} :
    env.columnSlot? record key = none → splitDot? key = none →
    env.HasAssociation record a → a.name = key → a.kind = .belongsTo →
    env.labelColumn? record a = .ok label →
    KeySlots env record key ((label.map fun column => ⟨column, .string⟩).toList ++
      [⟨record.qualified a.childKey, env.keyType record a.childKey⟩])
  /-- Nothing that the record type knows. -/
  | unknown : env.columnSlot? record key = none → KeySlots env record key []

/-- **A key that can be resolved names a column, a related column, a parent, or nothing.** -/
theorem keySlots_of_filterTarget {env : Environment} {record : RecordType} {key : String}
    {slots : List Slot} (h : env.filterTarget record key = .ok slots) :
    env.KeySlots record key slots := by
  rw [filterTarget] at h
  cases hcolumn : env.columnSlot? record key with
  | some slot =>
    simp only [hcolumn, Except.ok.injEq] at h
    exact h ▸ .column hcolumn
  | none =>
    simp only [hcolumn] at h
    obtain ⟨associations, hassociations, h⟩ := Fallible.bind_eq_ok_iff.1 h
    cases hdot : splitDot? key with
    | some names =>
      obtain ⟨name, column⟩ := names
      simp only [hdot, relatedSlots] at h
      cases hfound : associations.find? fun a => a.name = name with
      | none =>
        simp only [hfound, Option.bind_none, Except.ok.injEq] at h
        exact h ▸ .unknown hcolumn
      | some a =>
        cases ht : a.target? with
        | none =>
          simp only [hfound, Option.bind_some, ht, Except.ok.injEq] at h
          exact h ▸ .unknown hcolumn
        | some reference =>
          simp only [hfound, Option.bind_some, ht] at h
          obtain ⟨related, hrelated, h⟩ := Fallible.bind_eq_ok_iff.1 h
          cases h
          exact .related hcolumn hdot ⟨associations, hassociations, List.mem_of_find?_eq_some hfound⟩
            (by simpa using List.find?_some hfound) ht hrelated
    | none =>
      simp only [hdot, parentSlots] at h
      cases hfound : associations.find? fun a => a.name = key && a.kind = .belongsTo with
      | none =>
        simp only [hfound, Except.ok.injEq] at h
        exact h ▸ .unknown hcolumn
      | some a =>
        simp only [hfound] at h
        obtain ⟨label, hlabel, h⟩ := Fallible.bind_eq_ok_iff.1 h
        cases h
        have ha : a.name = key ∧ a.kind = .belongsTo := by simpa using List.find?_some hfound
        exact .parent hcolumn hdot ⟨associations, hassociations, List.mem_of_find?_eq_some hfound⟩
          ha.1 ha.2 hlabel

/-- The slot of a column is qualified with the table and goes by the declared type. -/
theorem columnSlot?_eq_some {env : Environment} {record : RecordType} {name : String} {slot : Slot}
    (h : env.columnSlot? record name = some slot) :
    ∃ column ∈ env.schema.columns record, column.name = name ∧
      slot.column = record.qualified name ∧ slot.type = .ofSqlType column.sqlType := by
  rw [columnSlot?, Option.map_eq_some_iff] at h
  obtain ⟨field, hfield, rfl⟩ := h
  obtain ⟨hmem, rfl⟩ := Schema.mem_fields_of_field? hfield
  obtain ⟨column, hcolumn, hname, htype⟩ := Schema.exists_column_of_mem_fields hmem
  exact ⟨column, hcolumn, hname.symm, rfl, htype⟩

/-- A key column goes by its declared type; one that is not declared holds whole numbers. -/
theorem keyType_cases (env : Environment) (record : RecordType) (key : String) :
    (∃ column ∈ env.schema.columns record, column.name = key ∧
        env.keyType record key = .ofSqlType column.sqlType) ∨
      ((∀ column ∈ env.schema.columns record, column.name ≠ key) ∧
        env.keyType record key = .integer) := by
  rw [keyType]
  cases hfield : env.schema.field? record key with
  | some field =>
    obtain ⟨hmem, hkey⟩ := Schema.mem_fields_of_field? hfield
    obtain ⟨column, hcolumn, hname, htype⟩ := Schema.exists_column_of_mem_fields hmem
    exact .inl ⟨column, hcolumn, hname.symm.trans hkey, htype⟩
  | none => exact .inr ⟨Schema.field?_eq_none_iff.1 hfield, rfl⟩

/-! ### Columns, each once -/

/-- **Columns are listed once, where they first appear**, behind those that were listed before. -/
theorem foldl_addColumn (columns labels : List String) :
    labels.foldl addColumn columns =
      columns ++ (labels.filter fun label => label ∉ columns).eraseDups := by
  induction labels using List.reverseRecOn with
  | nil => simp
  | append_singleton labels label ih =>
    rw [List.foldl_append, ih, List.foldl_cons, List.foldl_nil, List.filter_append, addColumn]
    by_cases hcolumn : label ∈ columns
    · simp [hcolumn]
    · by_cases hlabel : label ∈ labels
      · simp [hcolumn, hlabel, eraseDups_concat]
      · simp [hcolumn, hlabel, eraseDups_concat]

theorem mem_foldl_addColumn_iff {columns labels : List String} {column : String} :
    column ∈ labels.foldl addColumn columns ↔ column ∈ columns ∨ column ∈ labels := by
  rw [foldl_addColumn, List.mem_append, List.mem_eraseDups, List.mem_filter]
  by_cases hcolumn : column ∈ columns <;> simp [hcolumn]

end Environment

namespace Catalog

/-! ### The columns of slots and of searches -/

/-- A column that a condition on `record` may name, written with its table, for tests that go by
`type`.  A textual column may be tested as another textual one. -/
def TestedAs (catalog : Catalog) (config : Config) (record : RecordType) (column : String)
    (type : StorageType) : Prop :=
  ∃ table name declared, column = table ++ "." ++ name ∧
    catalog.Origin config record table name declared ∧
    (type = declared ∨ type.isTextual = true ∧ declared.isTextual = true)

variable {catalog : Catalog} {config : Config} {record : RecordType}

theorem Origin.of_isTarget (hc : catalog.WellFormed) {related : RecordType}
    (ht : (catalog.environment config).IsTarget record related) {column : Column}
    (hcolumn : column ∈ catalog.schema.columns related) :
    catalog.Origin config record related.tableName column.name (.ofSqlType column.sqlType) := by
  obtain ⟨a, reference, -, -, hfind⟩ := id ht
  have hmem : related ∈ catalog.recordTypes := (hc.registry_find?.1 hfind).1
  exact .related ht ((hc.mem_columns_iff hmem).1 hcolumn)

/-- A label is a textual column of a target. -/
theorem TestedAs.of_labelColumn? (hc : catalog.WellFormed) (hr : record ∈ catalog.recordTypes)
    {a : Association} (ha : (catalog.environment config).HasAssociation record a) {label : String}
    (hl : (catalog.environment config).labelColumn? record a = .ok (some label)) :
    catalog.TestedAs config record label .string := by
  obtain ⟨reference, parent, field, ht, hresolve, -, hfield, htextual, rfl⟩ :=
    Environment.labelColumn?_eq_some hl
  have hfind := (Environment.resolve_eq_ok_iff_find? hc hr ha ht).1 hresolve
  obtain ⟨column, hcolumn, hname, htype⟩ := Schema.exists_column_of_mem_fields hfield
  rw [htype] at htextual
  exact ⟨_, _, _, congrArg parent.qualified hname,
    Origin.of_isTarget hc ⟨a, reference, ha, ht, hfind⟩ hcolumn, .inr ⟨rfl, htextual⟩⟩

/-- **Every slot that a filter key stands for is a column with an origin.** -/
theorem testedAs_of_filterTarget (hc : catalog.WellFormed) (hr : record ∈ catalog.recordTypes)
    {key : String} {slots : List Slot}
    (h : (catalog.environment config).filterTarget record key = .ok slots) :
    ∀ slot ∈ slots, catalog.TestedAs config record slot.column slot.type := by
  intro slot hslot
  cases Environment.keySlots_of_filterTarget h with
  | column hcolumn =>
    obtain rfl := List.mem_singleton.1 hslot
    obtain ⟨column, hmem, rfl, hname, htype⟩ := Environment.columnSlot?_eq_some hcolumn
    exact ⟨_, _, _, hname, .own ((hc.mem_columns_iff hr).1 hmem), .inl htype⟩
  | related _ _ ha _ ht hresolve =>
    have hfind := (Environment.resolve_eq_ok_iff_find? hc hr ha ht).1 hresolve
    obtain ⟨column, hmem, rfl, hname, htype⟩ :=
      Environment.columnSlot?_eq_some (Option.mem_toList.1 hslot)
    exact ⟨_, _, _, hname, .of_isTarget hc ⟨_, _, ha, ht, hfind⟩ hmem, .inl htype⟩
  | @parent a label _ _ ha _ hkind hlabel =>
    rcases List.mem_append.1 hslot with hslot | hslot
    · obtain ⟨name, rfl, rfl⟩ := Option.map_eq_some_iff.1 (Option.mem_toList.1 hslot)
      exact TestedAs.of_labelColumn? hc hr ha hlabel
    · obtain rfl := List.mem_singleton.1 hslot
      rcases (catalog.environment config).keyType_cases record a.childKey with
        ⟨column, hmem, hname, htype⟩ | ⟨hnone, htype⟩
      · exact ⟨_, _, _, congrArg record.qualified hname.symm,
          .own ((hc.mem_columns_iff hr).1 hmem), .inl htype⟩
      · refine ⟨_, _, _, rfl, .key ha hkind fun column hcolumn => ?_, .inl htype⟩
        exact hnone column ((hc.mem_columns_iff hr).2 hcolumn)
  | unknown _ => cases hslot

/-- **Every column that a search looks into is a textual column with an origin.** -/
theorem testedAs_of_searchColumns (hc : catalog.WellFormed) (hr : record ∈ catalog.recordTypes)
    {columns : List String} (h : (catalog.environment config).searchColumns record = .ok columns) :
    ∀ column ∈ columns, catalog.TestedAs config record column .string := by
  have hown : ∀ column ∈ (catalog.environment config).ownSearchColumns record,
      catalog.TestedAs config record column .string := by
    intro name hname
    obtain ⟨field, hfield, rfl⟩ := List.mem_map.1 hname
    obtain ⟨hfield, htextual⟩ := List.mem_filter.1 hfield
    obtain ⟨column, hcolumn, hname, htype⟩ := Schema.exists_column_of_mem_fields hfield
    rw [htype] at htextual
    exact ⟨_, _, _, congrArg record.qualified hname, .own ((hc.mem_columns_iff hr).1 hcolumn),
      .inr ⟨rfl, htextual⟩⟩
  intro column hcolumn
  rw [Environment.searchColumns] at h
  split at h
  · obtain ⟨associations, hassociations, h⟩ := Fallible.bind_eq_ok_iff.1 h
    obtain ⟨labels, hlabels, h⟩ := Fallible.bind_eq_ok_iff.1 h
    cases h
    rcases Environment.mem_foldl_addColumn_iff.1 hcolumn with hcolumn | hcolumn
    · exact hown column hcolumn
    · obtain ⟨label, hlabel, rfl⟩ := List.mem_filterMap.1 hcolumn
      obtain ⟨a, ha, hsearch⟩ := Fallible.exists_of_mapM_eq_ok hlabels hlabel
      rw [Environment.searchLabel?] at hsearch
      split at hsearch
      · exact TestedAs.of_labelColumn? hc hr ⟨associations, hassociations, ha⟩ hsearch
      · cases hsearch
  · cases h
    exact hown column hcolumn

/-- A column that a condition may name is two identifiers with a dot between them. -/
theorem TestedAs.exists_isIdentifier (hc : catalog.WellFormed) (hr : record ∈ catalog.recordTypes)
    {column : String} {type : StorageType} (h : catalog.TestedAs config record column type) :
    ∃ table name, column = table ++ "." ++ name ∧ Text.isIdentifier table = true ∧
      Text.isIdentifier name = true := by
  obtain ⟨table, name, declared, heq, horigin, -⟩ := h
  exact ⟨table, name, heq, horigin.isIdentifier hc hr⟩

end Catalog

end AdminQuery
