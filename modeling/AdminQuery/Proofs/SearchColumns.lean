import AdminQuery.Proofs.Composition
import AdminQuery.Proofs.FilterErrors

/-!
# What a search looks into

A search looks into the textual columns of its record type and into the labels of the types that it belongs
to.  Control tokens mean nothing to it: whatever is not blank is matched against every column.

* `Reaches`: the one type on the far side of an association
* `Labelled`, `SearchLabels`: the label that an association leads to, and those of all associations
* `foldl_addColumn`: **columns are listed once, where they first appear**
* `LacksParent`: an association whose parent type is missed
* `searchLabels_of_searchColumns`, `searchColumns_eq_error_iff`: **the columns of a search, and why it has none**
* `Config.termPredicate`: what a search term asks of every column
* `search_matches_each_column`: **a search is one match for each of these columns**, the one that a filter with the
  search operator would make
-/

namespace AdminQuery

/-- Columns of one table are told apart by their names. -/
theorem RecordType.qualified_injective (record : RecordType) : Function.Injective record.qualified := by
  intro name other h
  rw [qualified, qualified] at h
  simpa using h

/-- The columns that hold text, in native order. -/
def Schema.textualColumns (schema : Schema) (record : RecordType) : List Column :=
  (schema.columns record).filter fun column => (StorageType.ofSqlType column.sqlType).isTextual

namespace Environment

/-! ### Columns, each once -/

theorem nodup_foldl_addColumn {columns : List String} (h : columns.Nodup) (labels : List String) :
    (labels.foldl addColumn columns).Nodup := by
  rw [foldl_addColumn, List.nodup_append]
  refine ⟨h, nodup_eraseDups _, ?_⟩
  rintro column hcolumn label hlabel rfl
  have hnew := (List.mem_filter.1 (List.mem_eraseDups.1 hlabel)).2
  simp [hcolumn] at hnew

/-! ### The label behind an association -/

variable {env : Environment} {record : RecordType} {a : Association}

/-- `related` is the one type on the far side of `a`. -/
def Reaches (env : Environment) (a : Association) (related : RecordType) : Prop :=
  ∃ reference, a.target? = some reference ∧ reference.resolve env.registry = .ok related

theorem Reaches.unique {related other : RecordType} (h : env.Reaches a related) (h' : env.Reaches a other) :
    related = other := by
  obtain ⟨reference, htarget, hrelated⟩ := h
  obtain ⟨reference', htarget', hother⟩ := h'
  obtain rfl := Option.some.inj (htarget.symm.trans htarget')
  exact Except.ok.inj (hrelated.symm.trans hother)

/-- `column` labels the type that `record` belongs to through `a`: one type, kept in another table, with a
textual column that goes by one of the configured names. -/
inductive Labelled (env : Environment) (record : RecordType) (a : Association) : String → Prop where
  | parent {parent : RecordType} {label : Field} :
    a.kind = .belongsTo → a.isPolymorphic = false → env.Reaches a parent →
    parent.tableName ≠ record.tableName →
    env.schema.labelField? parent env.config.labelFields = some label →
    Labelled env record a (parent.qualified label.name)

/-- The type that `a` belongs to has to be looked up and is not registered.  A type at hand, such as the record
type itself, needs no look-up. -/
structure LacksParent (env : Environment) (a : Association) (typeName : String) : Prop where
  belongsTo : a.kind = .belongsTo
  plain : a.isPolymorphic = false
  target : a.target? = some (.unresolved typeName)
  unregistered : env.registry.find? typeName = none

theorem searchLabel?_eq_ok_some_iff (ha : env.HasAssociation record a) {column : String} :
    env.searchLabel? record a = .ok (some column) ↔ env.Labelled record a column := by
  rw [searchLabel?]
  constructor
  · intro h
    split at h
    · rename_i hkind
      rw [labelColumn?] at h
      split at h
      · cases h
      · rename_i reference htarget
        obtain ⟨parent, hparent, h⟩ := Fallible.bind_eq_ok_iff.1 h
        split at h
        · cases h
        · rename_i htable
          simp only [pure, Except.pure, Except.ok.injEq, Option.map_eq_some_iff] at h
          obtain ⟨label, hlabel, rfl⟩ := h
          exact .parent hkind (ha.isPolymorphic_of_target? htarget) ⟨reference, htarget, hparent⟩ htable hlabel
    · cases h
  · rintro ⟨hkind, -, ⟨reference, htarget, hparent⟩, htable, hlabel⟩
    rw [if_pos hkind, labelColumn?]
    simp only [htarget]
    refine Fallible.bind_eq_ok_iff.2 ⟨_, hparent, ?_⟩
    rw [if_neg htable, hlabel]
    rfl

/-- An association leads to one label. -/
theorem Labelled.unique {column other : String} (h : env.Labelled record a column)
    (h' : env.Labelled record a other) : column = other := by
  obtain ⟨-, -, hparent, -, hlabel⟩ := h
  obtain ⟨-, -, hparent', -, hlabel'⟩ := h'
  obtain rfl := hparent.unique hparent'
  obtain rfl := Option.some.inj (hlabel.symm.trans hlabel')
  rfl

theorem searchLabel?_eq_error_iff (ha : env.HasAssociation record a) {e : AssociationError} :
    env.searchLabel? record a = .error e ↔
      ∃ typeName, env.LacksParent a typeName ∧ e = .unregistered typeName := by
  rw [searchLabel?]
  split
  · rename_i hkind
    rw [labelColumn?_eq_error_iff]
    constructor
    · rintro ⟨typeName, htarget, hfind, rfl⟩
      exact ⟨typeName, ⟨hkind, ha.isPolymorphic_of_target? htarget, htarget, hfind⟩, rfl⟩
    · rintro ⟨typeName, hlacks, rfl⟩
      exact ⟨typeName, hlacks.target, hlacks.unregistered, rfl⟩
  · rename_i hkind
    constructor
    · intro h
      cases h
    · rintro ⟨typeName, hlacks, -⟩
      exact absurd hlacks.belongsTo hkind

/-- A look-up that does not miss a parent succeeds. -/
theorem exists_searchLabel?_iff (ha : env.HasAssociation record a) :
    (∃ label, env.searchLabel? record a = .ok label) ↔ ∀ typeName, ¬env.LacksParent a typeName := by
  cases hresult : env.searchLabel? record a with
  | ok label =>
    refine iff_of_true ⟨label, rfl⟩ fun typeName hlacks => ?_
    rw [(searchLabel?_eq_error_iff ha).2 ⟨typeName, hlacks, rfl⟩] at hresult
    cases hresult
  | error e =>
    obtain ⟨typeName, hlacks, -⟩ := (searchLabel?_eq_error_iff ha).1 hresult
    exact iff_of_false nofun fun h => h typeName hlacks

/-! ### The labels behind all associations -/

/-- The labels behind associations, one association after the other. -/
inductive LabelColumns (env : Environment) (record : RecordType) : List Association → List String → Prop where
  | nil : LabelColumns env record [] []
  | labelled {a : Association} {column : String} {associations : List Association} {labels : List String} :
    env.Labelled record a column → LabelColumns env record associations labels →
    LabelColumns env record (a :: associations) (column :: labels)
  | unlabelled {a : Association} {associations : List Association} {labels : List String} :
    (∀ column, ¬env.Labelled record a column) → LabelColumns env record associations labels →
    LabelColumns env record (a :: associations) labels

/-- The labels that a search looks into: those behind the associations in declaration order, or none if the
configuration leaves them out. -/
inductive SearchLabels (env : Environment) (record : RecordType) : List String → Prop where
  | unused : env.config.searchBelongsTo = false → SearchLabels env record []
  | used {associations : List Association} {labels : List String} :
    env.config.searchBelongsTo = true → env.associations record = .ok associations →
    env.LabelColumns record associations labels → SearchLabels env record labels

theorem labelColumns_of_mapM {associations : List Association} {labels : List (Option String)}
    (ha : ∀ a ∈ associations, env.HasAssociation record a)
    (h : (associations.mapM fun a => env.searchLabel? record a) = .ok labels) :
    env.LabelColumns record associations (labels.filterMap id) := by
  replace h := Fallible.mapM_eq_ok_iff.1 h
  induction h with
  | nil => exact .nil
  | @cons a label associations labels hlabel _ ih =>
    have hrest := ih fun b hb => ha b (by simp [hb])
    have hhead := ha a (by simp)
    cases label with
    | some column => exact .labelled ((searchLabel?_eq_ok_some_iff hhead).1 hlabel) hrest
    | none =>
      refine .unlabelled (fun column hcolumn => ?_) hrest
      rw [(searchLabel?_eq_ok_some_iff hhead).2 hcolumn] at hlabel
      cases hlabel

theorem LabelColumns.mem_iff {associations : List Association} {labels : List String}
    (h : env.LabelColumns record associations labels) {column : String} :
    column ∈ labels ↔ ∃ a ∈ associations, env.Labelled record a column := by
  induction h with
  | nil => simp
  | @labelled a label associations labels hlabel _ ih =>
    have honly : env.Labelled record a column ↔ column = label :=
      ⟨fun hcolumn => hcolumn.unique hlabel, fun heq => heq ▸ hlabel⟩
    simp [ih, honly]
  | @unlabelled a associations labels hnone _ ih => simp [ih, hnone]

/-- Where labels are looked into, they are those behind the associations. -/
theorem SearchLabels.mem_iff {associations : List Association} {labels : List String}
    (h : env.SearchLabels record labels) (hused : env.config.searchBelongsTo = true)
    (hok : env.associations record = .ok associations) {column : String} :
    column ∈ labels ↔ ∃ a ∈ associations, env.Labelled record a column := by
  cases h with
  | unused hunused =>
    rw [hused] at hunused
    cases hunused
  | used _ hdescribed hlabels =>
    rw [hok] at hdescribed
    cases hdescribed
    exact hlabels.mem_iff

/-! ### The columns of a search -/

theorem ownSearchColumns_eq (env : Environment) (record : RecordType) :
    env.ownSearchColumns record =
      (env.schema.textualColumns record).map fun column => record.qualified column.name := by
  rw [ownSearchColumns, Schema.textualFields, Schema.fields, Schema.textualColumns, List.filter_map,
    List.map_map]
  simp only [Function.comp_def, Field.name_ofColumn, Field.storageType_ofColumn]

theorem nodup_ownSearchColumns (h : ((env.schema.columns record).map Column.name).Nodup) :
    (env.ownSearchColumns record).Nodup := by
  rw [ownSearchColumns_eq]
  have hnames : ((env.schema.textualColumns record).map Column.name).Nodup :=
    h.sublist (List.filter_sublist.map _)
  have hqualified := hnames.map record.qualified_injective
  rwa [List.map_map] at hqualified

/-- **The columns of a search** are the textual columns of the record type, and behind them the labels. -/
theorem searchLabels_of_searchColumns {columns : List String}
    (h : env.searchColumns record = .ok columns) :
    ∃ labels, env.SearchLabels record labels ∧
      columns = labels.foldl addColumn (env.ownSearchColumns record) := by
  rw [searchColumns] at h
  split at h
  · rename_i hused
    obtain ⟨associations, hassociations, h⟩ := Fallible.bind_eq_ok_iff.1 h
    obtain ⟨labels, hlabels, h⟩ := Fallible.bind_eq_ok_iff.1 h
    cases h
    have ha : ∀ a ∈ associations, env.HasAssociation record a := fun a ha =>
      ⟨associations, hassociations, ha⟩
    exact ⟨_, .used hused hassociations (labelColumns_of_mapM ha hlabels), rfl⟩
  · rename_i hunused
    cases h
    exact ⟨[], .unused (by simpa using hunused), rfl⟩

/-- **A search has no columns** when the associations cannot be described, or a parent type is missed; the first
one that is missed gives the error. -/
theorem searchColumns_eq_error_iff {e : AssociationError} :
    env.searchColumns record = .error e ↔ env.config.searchBelongsTo = true ∧
      (env.associations record = .error e ∨ ∃ before a after typeName,
        env.associations record = .ok (before ++ a :: after) ∧ env.LacksParent a typeName ∧
        (∀ earlier ∈ before, ∀ other, ¬env.LacksParent earlier other) ∧ e = .unregistered typeName) := by
  rw [searchColumns]
  split
  · rename_i hused
    rw [Fallible.bind_eq_error_iff]
    simp only [hused, true_and]
    refine or_congr_right ?_
    constructor
    · rintro ⟨associations, hok, h⟩
      rcases Fallible.bind_eq_error_iff.1 h with h | ⟨labels, -, h⟩
      · obtain ⟨before, a, after, rfl, hbefore, ha⟩ := Fallible.mapM_eq_error_iff.1 h
        have hmem : ∀ b ∈ before ++ a :: after, env.HasAssociation record b := fun b hb => ⟨_, hok, hb⟩
        obtain ⟨typeName, hlacks, rfl⟩ := (searchLabel?_eq_error_iff (hmem a (by simp))).1 ha
        refine ⟨before, a, after, typeName, hok, hlacks, fun earlier hearlier => ?_, rfl⟩
        exact (exists_searchLabel?_iff (hmem earlier (by simp [hearlier]))).1 (hbefore earlier hearlier)
      · cases h
    · rintro ⟨before, a, after, typeName, hok, hlacks, hbefore, rfl⟩
      have hmem : ∀ b ∈ before ++ a :: after, env.HasAssociation record b := fun b hb => ⟨_, hok, hb⟩
      refine ⟨_, hok, Fallible.bind_eq_error_iff.2 (.inl (Fallible.mapM_eq_error_iff.2 ?_))⟩
      refine ⟨before, a, after, rfl, fun earlier hearlier => ?_, ?_⟩
      · exact (exists_searchLabel?_iff (hmem earlier (by simp [hearlier]))).2 (hbefore earlier hearlier)
      · exact (searchLabel?_eq_error_iff (hmem a (by simp))).2 ⟨typeName, hlacks, rfl⟩
  · rename_i hunused
    simp [hunused]

end Environment

/-! ### Search terms -/

/-- What a search term asks of every column: the pattern of the term as it was entered. -/
def Config.termPredicate (config : Config) (term : String) : Predicate :=
  .matchesPattern config.dialect config.escapeLikeWildcards
    (config.patternStyle.pattern (.ofToken config.searchOperator) term)

/-- Every match of a term binds the same pattern. -/
theorem boundValues_map_termPredicate (config : Config) (term : String) (columns : List String) :
    boundValues (columns.map fun column => ⟨column, config.termPredicate term⟩) =
      List.replicate columns.length
        (.text (config.patternStyle.pattern (.ofToken config.searchOperator) term)) := by
  induction columns with
  | nil => rfl
  | cons column rest ih =>
    rw [List.map_cons, ← List.singleton_append, boundValues_append, ih]
    rfl

theorem predicate?_eq_termPredicate {config : Config} {term : String} (h : Text.isAllBlank term = false) :
    config.patternStyle.predicate? (.ofToken config.searchOperator) term =
      some (config.termPredicate term) := by
  rw [PatternStyle.predicate?, h]
  rfl

namespace Environment

variable {env : Environment} {record : RecordType} {term : String}

theorem searchAtoms_of_isAllBlank (h : Text.isAllBlank term = true) :
    env.searchAtoms record term = .ok [] := by
  rw [searchAtoms, if_pos h]

/-- **A term that is not blank is matched against every column.** -/
theorem searchAtoms_eq_map (h : Text.isAllBlank term = false) :
    env.searchAtoms record term = (env.searchColumns record).map fun columns =>
      columns.map fun column => ⟨column, env.config.termPredicate term⟩ := by
  have hatom : (fun column => env.searchAtom? term column) =
      fun column => some ⟨column, env.config.termPredicate term⟩ := by
    funext column
    rw [searchAtom?, predicate?_eq_termPredicate h]
    rfl
  rw [searchAtoms, if_neg (by simp [h]), hatom]
  cases env.searchColumns record with
  | error e => rfl
  | ok columns =>
    show Except.ok _ = Except.ok _
    rw [List.filterMap_eq_map']

/-- A filter that asks a textual column for the term by the search operator makes the same match. -/
theorem atom?_eq_termPredicate {config : Config} (h : Text.isAllBlank term = false)
    (hterm : ControlToken.ofText? term = none)
    (hoperator : ControlToken.ofText? config.searchOperator = none) {type : StorageType}
    (htype : type.isTextual = true) (column : String) (now : Instant) :
    (⟨some config.searchOperator, term⟩ : FilterEntry).atom? config.patternStyle column type now =
      some ⟨column, config.termPredicate term⟩ := by
  have htoken : (⟨some config.searchOperator, term⟩ : FilterEntry).controlToken? = none := by
    simp [FilterEntry.controlToken?, hterm, hoperator, ControlToken.earlier?]
  have hvalue : (⟨some config.searchOperator, term⟩ : FilterEntry).valuePredicate? config.patternStyle
      type now = some (config.termPredicate term) := by
    cases type with
    | string | text =>
      simp only [FilterEntry.valuePredicate?, MatchPosition.ofOperator, Option.map_some, Option.getD_some]
      exact predicate?_eq_termPredicate h
    | _ => cases htype
  rw [FilterEntry.atom?, FilterEntry.predicate?, htoken]
  simp only [hvalue, Option.map_some]

end Environment

/-- **A search is one match for each searchable column.**  These are the textual columns in native order, and
behind them the labels of the types that the record type belongs to, unless they are listed already; there are
none only when a label cannot be looked up.  A blank term asks nothing, whatever the associations are; any other
term, a control token too, asks every column for the pattern of the term as it was entered.  Where neither the
term nor the search operator is a control token, a filter makes the same match. -/
theorem search_matches_each_column (env : Environment) (record : RecordType) :
    (∀ columns, env.searchColumns record = .ok columns → ∃ own labels,
      own = (env.schema.textualColumns record).map (fun column => record.qualified column.name) ∧
      env.SearchLabels record labels ∧
      columns = own ++ (labels.filter fun label => label ∉ own).eraseDups ∧
      (((env.schema.columns record).map Column.name).Nodup → columns.Nodup)) ∧
    (∀ e, env.searchColumns record = .error e ↔ env.config.searchBelongsTo = true ∧
      (env.associations record = .error e ∨ ∃ before a after typeName,
        env.associations record = .ok (before ++ a :: after) ∧ env.LacksParent a typeName ∧
        (∀ earlier ∈ before, ∀ other, ¬env.LacksParent earlier other) ∧ e = .unregistered typeName)) ∧
    (∀ term, Text.isAllBlank term = true → ∀ registry relationships,
      (env.relinked registry relationships).searchCondition record term = .ok .always) ∧
    (∀ term, Text.isAllBlank term = false →
      (∀ e, env.searchColumns record = .error e → env.searchCondition record term = .error e) ∧
      ∀ columns, env.searchColumns record = .ok columns →
        ∃ c, env.searchCondition record term = .ok c ∧
          c = .ofAlternatives (columns.map fun column => ⟨column, env.config.termPredicate term⟩) ∧
          c.bindings = List.replicate columns.length
            (.text (env.config.patternStyle.pattern (.ofToken env.config.searchOperator) term))) ∧
    (∀ term, Text.isAllBlank term = false → ControlToken.ofText? term = none →
      ControlToken.ofText? env.config.searchOperator = none →
      ∀ (column : String) (type : StorageType) (now : Instant), type.isTextual = true →
        (⟨some env.config.searchOperator, term⟩ : FilterEntry).atom? env.config.patternStyle column type
          now = some ⟨column, env.config.termPredicate term⟩) := by
  refine ⟨fun columns h => ?_, fun e => Environment.searchColumns_eq_error_iff,
    fun term h registry relationships => ?_, fun term h => ⟨fun e he => ?_, fun columns hcolumns => ?_⟩,
    fun term h hterm hoperator column type now htype =>
      Environment.atom?_eq_termPredicate h hterm hoperator htype column now⟩
  · obtain ⟨labels, hlabels, rfl⟩ := Environment.searchLabels_of_searchColumns h
    refine ⟨_, labels, rfl, hlabels, ?_, fun hnames => ?_⟩
    · rw [Environment.foldl_addColumn, Environment.ownSearchColumns_eq]
    · exact Environment.nodup_foldl_addColumn (Environment.nodup_ownSearchColumns hnames) labels
  · rw [Environment.searchCondition, Environment.searchAtoms_of_isAllBlank h]
    rfl
  · rw [Environment.searchCondition, Environment.searchAtoms_eq_map h, he]
    rfl
  · refine ⟨_, ?_, rfl, ?_⟩
    · rw [Environment.searchCondition, Environment.searchAtoms_eq_map h, hcolumns]
      rfl
    · rw [Condition.bindings_ofAlternatives, boundValues_map_termPredicate]

namespace Staff

/-- Departments have a title. -/
def department : TypeDeclaration where
  name := "Department"
  table := some "departments"
  primaryKey := none
  columns := [.ofNameType "id" "integer", .ofNameType "title" "varchar(40)"]
  relationships := []

/-- Employees have a manager, who is one of them, a department they work in and one they come from, and a desk of
some kind. -/
def employee : TypeDeclaration where
  name := "Employee"
  table := some "employees"
  primaryKey := none
  columns := [.ofNameType "id" "integer", .ofNameType "manager_id" "integer", .ofNameType "name" "text"]
  relationships :=
    [{ Relationship.ofKind "belongs_to" "manager" with className := some "Employee" },
      { Relationship.ofKind "belongs_to" "department" with className := some "Department" },
      { Relationship.ofKind "belongs_to" "origin" with className := some "Department" },
      { Relationship.ofKind "belongs_to" "desk" with polymorphic := true }]

/-- Both types, departments first. -/
def catalog : Catalog :=
  ⟨[department, employee]⟩

theorem reachable_catalog : catalog.Reachable := by
  have hdepartment : Catalog.empty.register department = .ok ⟨[department]⟩ := by decide
  have hemployee : (⟨[department]⟩ : Catalog).register employee = .ok catalog := by decide
  exact (Catalog.Reachable.empty.register hdepartment).register hemployee

end Staff

open Staff in
/-- A search for employees looks into their names and into the titles of both departments, which are one column;
a control token is matched like any other term. -/
theorem search_matches_each_column_staff :
    ((((catalog.environment .default).schema.columns employee.recordType).map Column.name).Nodup ∧
      ["employees.name", "departments.title"].Nodup) ∧
    Text.isAllBlank "_null" = false ∧
    (catalog.environment .default).searchCondition employee.recordType "_null" =
      .ok ⟨"(employees.name LIKE ?) OR (departments.title LIKE ?)", [.text "%_null%", .text "%_null%"]⟩ ∧
    Text.isAllBlank " " = true ∧
    (catalog.environment .default).searchCondition employee.recordType " " = .ok .always ∧
    ControlToken.ofText? "Ann " = none ∧
    (⟨some "default", "Ann "⟩ : FilterEntry).atom? Config.default.patternStyle "departments.title" .string
      ⟨0, 0⟩ = some ⟨"departments.title", .matchesPattern .sqlite false "%Ann %"⟩ := by
  obtain ⟨hcolumns, -, hblank, hterm, hfilter⟩ :=
    search_matches_each_column (catalog.environment .default) employee.recordType
  have hok : (catalog.environment .default).searchColumns employee.recordType =
      .ok ["employees.name", "departments.title"] := by decide +kernel
  obtain ⟨own, labels, -, -, -, hnodup⟩ := hcolumns _ hok
  have hnames : (((catalog.environment .default).schema.columns employee.recordType).map
      Column.name).Nodup := by decide +kernel
  obtain ⟨c, hc, rfl, -⟩ := (hterm "_null" (by decide)).2 _ hok
  refine ⟨⟨hnames, hnodup hnames⟩, by decide, ?_, by decide,
    hblank " " (by decide) catalog.registry catalog.schema.relationships, by decide, ?_⟩
  · rw [hc]
    decide +kernel
  · exact hfilter "Ann " (by decide) (by decide) (by decide) "departments.title" .string ⟨0, 0⟩ rfl

end AdminQuery
