import AdminQuery.Proofs.ParentLabels

/-!
# List queries

A list query is put together from parts that do not look at one another, in stages that may fail.

* `Environment.LoadsOnly`, `Environment.LoadFails`: the associations that can be loaded with a list, and why not
* `Environment.ListFails`: what a list fails for: **the first stage at fault gives the error**
* `listQuery_eq_ok_iff`, `listQuery_eq_error_iff`: a list is what its stages give, or fails with the first of them
* `listQuery_eq_error_iff_of_associations`: without descriptions of the associations, a list fails when a stage
  needs them
* `Environment.sortColumn_of_hasColumn`, `Environment.sortColumn_of_not_hasColumn`: the column of the order
* `list_queries_compose`: **the errors of a list, its parts, and what each of them depends on**
-/

namespace AdminQuery

/-! ### Conditions and their bindings -/

/-- A column with one of some values. -/
def Condition.oneOf (column : String) (values : List String) : Condition :=
  ⟨"(" ++ column ++ " IN (?))", [.list values]⟩

namespace Environment

variable {env : Environment} {record : RecordType}

theorem bulkCondition_eq (record : RecordType) (ids : List String) :
    bulkCondition record ids =
      if ids = [] then .always else .oneOf (record.qualified record.primaryKey) ids := by
  cases ids with
  | nil => rfl
  | cons id ids =>
    simp [bulkCondition, bulkAtom?, Atom.condition, Predicate.sql, Predicate.bindings, Condition.oneOf,
      String.append_assoc]

theorem bindings_of_filterCondition {filters : FilterMap} {now : Instant} {c : Condition}
    (h : env.filterCondition record filters now = .ok c) (hempty : c.isAlways = true) : c.bindings = [] := by
  obtain ⟨clauses, -, rfl⟩ := Fallible.map_eq_ok_iff.1 h
  exact Condition.bindings_join_of_isAlways hempty

theorem bindings_of_optionalSearch {term : Option String} {c : Condition}
    (h : env.optionalSearch record term = .ok c) (hempty : c.isAlways = true) : c.bindings = [] := by
  cases term with
  | none =>
    cases h
    rfl
  | some term =>
    obtain ⟨atoms, -, rfl⟩ := Fallible.map_eq_ok_iff.1 h
    exact Condition.bindings_join_of_isAlways hempty

theorem bindings_of_bulkCondition {ids : List String} (hempty : (bulkCondition record ids).isAlways = true) :
    (bulkCondition record ids).bindings = [] := by
  rw [bulkCondition] at hempty ⊢
  cases hatom : bulkAtom? record ids with
  | none => rfl
  | some atom =>
    rw [hatom] at hempty
    cases (Condition.not_isAlways_condition atom).symm.trans hempty

/-- **A list binds what its search, its filters and its keys bind**, in this order. -/
theorem bindings_list {request : ListRequest} {now : Instant} {search filters : Condition}
    (hsearch : env.optionalSearch record request.query = .ok search)
    (hfilters : env.filterCondition record request.filters now = .ok filters) :
    (Condition.all [search.enclosed, filters.enclosed, bulkCondition record request.bulkIds]).bindings =
      search.bindings ++ filters.bindings ++ (bulkCondition record request.bulkIds).bindings := by
  rw [Condition.all, Condition.bindings_join]
  · simp
  · simp only [List.forall_mem_cons, Condition.isAlways_enclosed, Condition.bindings_enclosed]
    exact ⟨bindings_of_optionalSearch hsearch, bindings_of_filterCondition hfilters, bindings_of_bulkCondition,
      List.forall_mem_nil _⟩

/-! ### Associations to load -/

section Load

variable {includes : List String}

/-- Every association to load is declared; where none is to be loaded, none needs to be described. -/
def LoadsOnly (env : Environment) (record : RecordType) (includes : List String) : Prop :=
  includes = [] ∨ ∃ associations, env.associations record = .ok associations ∧
    ∀ name ∈ includes, ∃ a ∈ associations, a.name = name

/-- Why associations cannot be loaded: none can be described, or one is not declared, of which the first counts. -/
inductive LoadFails (env : Environment) (record : RecordType) (includes : List String) :
    AssociationError → Prop where
  | undescribed {e : AssociationError} : includes ≠ [] → env.associations record = .error e →
    LoadFails env record includes e
  | undeclared {associations : List Association} {before after : List String} {name : String} :
    env.associations record = .ok associations → includes = before ++ name :: after →
    (∀ earlier ∈ before, ∃ a ∈ associations, a.name = earlier) → (∀ a ∈ associations, a.name ≠ name) →
    LoadFails env record includes (.misconfigured record.name name .undeclared)

/-- A name of an association, by the test that a list makes. -/
theorem any_name_iff {associations : List Association} {name : String} :
    (!associations.any fun a => a.name = name) = false ↔ ∃ a ∈ associations, a.name = name := by
  simp

theorem checkIncludes_eq_ok_iff {loaded : List String} :
    env.checkIncludes record includes = .ok loaded ↔ loaded = includes ∧ env.LoadsOnly record includes := by
  rw [checkIncludes, LoadsOnly]
  cases includes with
  | nil => simp [eq_comm]
  | cons first rest =>
    rw [List.isEmpty_cons, if_neg Bool.false_ne_true, Fallible.bind_eq_ok_iff]
    simp only [List.cons_ne_nil, false_or]
    constructor
    · rintro ⟨associations, hok, h⟩
      split at h
      · cases h
      · rename_i hnone
        cases h
        refine ⟨rfl, associations, hok, fun name hname => ?_⟩
        exact any_name_iff.1 (by simpa using List.find?_eq_none.1 hnone name hname)
    · rintro ⟨rfl, associations, hok, h⟩
      have hnone : ((first :: rest).find? fun name => !associations.any fun a => a.name = name) = none := by
        rw [List.find?_eq_none]
        intro name hname
        rw [any_name_iff.2 (h name hname)]
        exact Bool.false_ne_true
      exact ⟨associations, hok, by rw [hnone]⟩

theorem checkIncludes_eq_error_iff {e : AssociationError} :
    env.checkIncludes record includes = .error e ↔ env.LoadFails record includes e := by
  rw [checkIncludes]
  constructor
  · intro h
    split at h
    · cases h
    · rename_i hne
      rcases Fallible.bind_eq_error_iff.1 h with herror | ⟨associations, hok, h⟩
      · exact .undescribed (by simpa using hne) herror
      · split at h
        · rename_i name hfound
          cases h
          obtain ⟨hname, before, after, hincludes, hbefore⟩ := List.find?_eq_some_iff_append.1 hfound
          refine .undeclared hok hincludes (fun earlier hearlier => ?_) ?_
          · exact any_name_iff.1 (by simpa using hbefore earlier hearlier)
          · simpa using hname
        · cases h
  · intro h
    cases h with
    | undescribed hne herror =>
      rw [if_neg (by simpa using hne), herror]
      rfl
    | @undeclared associations before after name hok hincludes hbefore hname =>
      have hfound : (includes.find? fun name => !associations.any fun a => a.name = name) = some name := by
        rw [List.find?_eq_some_iff_append]
        exact ⟨by simpa using hname, before, after, hincludes, by simpa using hbefore⟩
      rw [if_neg (by simp [hincludes])]
      exact Fallible.bind_eq_error_iff.2 (.inr ⟨associations, hok, by rw [hfound]⟩)

/-- Associations cannot be loaded when they cannot be described, or one of them is not declared. -/
theorem exists_loadFails_iff : (∃ e, env.LoadFails record includes e) ↔
    includes ≠ [] ∧ ((∃ e, env.associations record = .error e) ∨ ∃ associations,
      env.associations record = .ok associations ∧
        ∃ name ∈ includes, ∀ a ∈ associations, a.name ≠ name) := by
  constructor
  · rintro ⟨e, hfails⟩
    cases hfails with
    | undescribed hne herror => exact ⟨hne, .inl ⟨e, herror⟩⟩
    | @undeclared associations before after name hok hincludes _ hname =>
      have hmem : name ∈ includes := by simp [hincludes]
      exact ⟨List.ne_nil_of_mem hmem, .inr ⟨associations, hok, name, hmem, hname⟩⟩
  · rintro ⟨hne, hcause⟩
    cases hresult : env.checkIncludes record includes with
    | error e => exact ⟨e, checkIncludes_eq_error_iff.1 hresult⟩
    | ok loaded =>
      obtain ⟨associations, hok, hdeclared⟩ := (checkIncludes_eq_ok_iff.1 hresult).2.resolve_left hne
      rw [hok] at hcause
      obtain ⟨e, ⟨⟩⟩ | ⟨_, ⟨⟩, name, hname, hundeclared⟩ := hcause
      obtain ⟨a, ha, hsame⟩ := hdeclared name hname
      exact absurd hsame (hundeclared a ha)

end Load

/-! ### Search terms -/

section Term

variable {term : Option String}

theorem optionalSearch_eq_error_iff {e : AssociationError} : env.optionalSearch record term = .error e ↔
    ∃ entered, term = some entered ∧ env.searchCondition record entered = .error e := by
  cases term with
  | none => simp [optionalSearch]
  | some entered => simp [optionalSearch]

/-- A term that was not entered asks nothing. -/
theorem exists_optionalSearch_iff : (∃ c, env.optionalSearch record term = .ok c) ↔
    ∀ entered ∈ term, ∃ c, env.searchCondition record entered = .ok c := by
  cases term with
  | none => simp [optionalSearch]
  | some entered => simp [optionalSearch]

/-- Where associations cannot be described, a search fails when it needs them: when it looks for a term that is
not blank, and into the labels of parents. -/
theorem searchCondition_eq_error_iff_of_associations {d : AssociationError}
    (h : env.associations record = .error d) {entered : String} {e : AssociationError} :
    env.searchCondition record entered = .error e ↔
      Text.isAllBlank entered = false ∧ env.config.searchBelongsTo = true ∧ e = d := by
  rw [searchCondition, Fallible.map_eq_error_iff]
  cases hblank : Text.isAllBlank entered with
  | true => simp [searchAtoms_of_isAllBlank hblank]
  | false =>
    rw [searchAtoms_eq_map hblank, Fallible.map_eq_error_iff, searchColumns_eq_error_iff]
    simp [h, eq_comm (a := e)]

end Term

/-- Where associations cannot be described, filters fail when a key is no column. -/
theorem filterCondition_eq_error_iff_of_associations {d : AssociationError}
    (h : env.associations record = .error d) {filters : FilterMap} {now : Instant} {e : AssociationError} :
    env.filterCondition record filters now = .error e ↔
      (∃ filter ∈ filters.fields, ¬env.HasColumn record filter.field) ∧ e = d := by
  rw [filterCondition_eq_error_iff_keys]
  simp [h, eq_comm]

/-! ### Stages of a list -/

section Stages

variable {request : ListRequest} {now : Instant}

/-- What a list fails for, one stage after the other: the associations to load, the search and the filters. -/
inductive ListFails (env : Environment) (record : RecordType) (request : ListRequest) (now : Instant)
    (e : AssociationError) : Prop where
  | load : env.LoadFails record request.includes e → ListFails env record request now e
  | search {term : String} : env.LoadsOnly record request.includes → request.query = some term →
    env.searchCondition record term = .error e → ListFails env record request now e
  | filters : env.LoadsOnly record request.includes →
    (∀ term ∈ request.query, ∃ c, env.searchCondition record term = .ok c) →
    env.filterCondition record request.filters now = .error e → ListFails env record request now e

theorem exists_checkIncludes_iff {includes : List String} :
    (∃ loaded, env.checkIncludes record includes = .ok loaded) ↔ env.LoadsOnly record includes := by
  simp [checkIncludes_eq_ok_iff]

/-- **A list fails for the first stage at fault.** -/
theorem listQuery_eq_error_iff {e : AssociationError} :
    env.listQuery record request now = .error e ↔ env.ListFails record request now e := by
  rw [listQuery, Fallible.bind_eq_error_iff, checkIncludes_eq_error_iff]
  simp only [Fallible.bind_eq_error_iff, optionalSearch_eq_error_iff]
  constructor
  · rintro (hload | ⟨loaded, hloaded, hrest⟩)
    · exact .load hload
    have hloads := exists_checkIncludes_iff.1 ⟨loaded, hloaded⟩
    rcases hrest with ⟨term, hterm, hsearch⟩ | ⟨search, hsearch, hfilters | ⟨c, -, ⟨⟩⟩⟩
    · exact .search hloads hterm hsearch
    · exact .filters hloads (exists_optionalSearch_iff.1 ⟨search, hsearch⟩) hfilters
  · intro h
    cases h with
    | load hload => exact .inl hload
    | search hloads hterm hsearch =>
      obtain ⟨loaded, hloaded⟩ := exists_checkIncludes_iff.2 hloads
      exact .inr ⟨loaded, hloaded, .inl ⟨_, hterm, hsearch⟩⟩
    | filters hloads hterm hfilters =>
      obtain ⟨loaded, hloaded⟩ := exists_checkIncludes_iff.2 hloads
      obtain ⟨search, hsearch⟩ := exists_optionalSearch_iff.2 hterm
      exact .inr ⟨loaded, hloaded, .inr ⟨search, hsearch, .inl hfilters⟩⟩

/-- **A list is what its stages give.** -/
theorem listQuery_eq_ok_iff {query : ListQuery} :
    env.listQuery record request now = .ok query ↔ env.LoadsOnly record request.includes ∧
      ∃ search filters, env.optionalSearch record request.query = .ok search ∧
        env.filterCondition record request.filters now = .ok filters ∧
        query = ⟨record.tableName,
          .all [search.enclosed, filters.enclosed, bulkCondition record request.bulkIds],
          env.listSort record request, request.includes⟩ := by
  rw [listQuery, Fallible.bind_eq_ok_iff]
  simp only [Fallible.bind_eq_ok_iff, checkIncludes_eq_ok_iff]
  constructor
  · rintro ⟨_, ⟨rfl, hloads⟩, search, hsearch, filters, hfilters, ⟨⟩⟩
    exact ⟨hloads, search, filters, hsearch, hfilters, rfl⟩
  · rintro ⟨hloads, search, filters, hsearch, hfilters, rfl⟩
    exact ⟨_, ⟨rfl, hloads⟩, search, hsearch, filters, hfilters, rfl⟩

/-- A list fails when one of its stages does. -/
theorem exists_listQuery_error_iff : (∃ e, env.listQuery record request now = .error e) ↔
    (∃ e, env.LoadFails record request.includes e) ∨
      (∃ term e, request.query = some term ∧ env.searchCondition record term = .error e) ∨
      ∃ e, env.filterCondition record request.filters now = .error e := by
  constructor
  · rintro ⟨e, he⟩
    cases listQuery_eq_error_iff.1 he with
    | load hload => exact .inl ⟨e, hload⟩
    | search _ hterm hsearch => exact .inr (.inl ⟨_, e, hterm, hsearch⟩)
    | filters _ _ hfilters => exact .inr (.inr ⟨e, hfilters⟩)
  · intro h
    cases hresult : env.listQuery record request now with
    | error e => exact ⟨e, rfl⟩
    | ok query =>
      -- a list that is given has gone through all stages, which leaves none to be at fault
      obtain ⟨hloads, search, filters, hsearch, hfilters, -⟩ := listQuery_eq_ok_iff.1 hresult
      rcases h with ⟨e, hload⟩ | ⟨term, e, hterm, he⟩ | ⟨e, he⟩
      · rw [← checkIncludes_eq_error_iff, checkIncludes_eq_ok_iff.2 ⟨rfl, hloads⟩] at hload
        cases hload
      · rw [optionalSearch_eq_error_iff.2 ⟨term, hterm, he⟩] at hsearch
        cases hsearch
      · rw [hfilters] at he
        cases he

/-- **Where associations cannot be described, a list fails when a stage needs them**: when it loads some, looks for
a term in the labels of parents, or has a key that is no column. -/
theorem listQuery_eq_error_iff_of_associations {d : AssociationError} (h : env.associations record = .error d)
    {e : AssociationError} : env.listQuery record request now = .error e ↔ e = d ∧
      (request.includes ≠ [] ∨
        (∃ term, request.query = some term ∧ Text.isAllBlank term = false ∧
          env.config.searchBelongsTo = true) ∨
        ∃ filter ∈ request.filters.fields, ¬env.HasColumn record filter.field) := by
  rw [listQuery_eq_error_iff]
  constructor
  · intro hfails
    cases hfails with
    | load hload =>
      cases hload with
      | undescribed hne herror => exact ⟨Except.error.inj (herror.symm.trans h), .inl hne⟩
      | undeclared hok => cases hok.symm.trans h
    | search _ hterm hsearch =>
      obtain ⟨hblank, hlabels, rfl⟩ := (searchCondition_eq_error_iff_of_associations h).1 hsearch
      exact ⟨rfl, .inr (.inl ⟨_, hterm, hblank, hlabels⟩)⟩
    | filters _ _ hfilters =>
      obtain ⟨hkey, rfl⟩ := (filterCondition_eq_error_iff_of_associations h).1 hfilters
      exact ⟨rfl, .inr (.inr hkey)⟩
  · rintro ⟨rfl, hneeds⟩
    by_cases hne : request.includes = []
    · have hloads : env.LoadsOnly record request.includes := .inl hne
      by_cases hsearch : ∀ term ∈ request.query, ∃ c, env.searchCondition record term = .ok c
      · refine .filters hloads hsearch ((filterCondition_eq_error_iff_of_associations h).2 ⟨?_, rfl⟩)
        rcases hneeds with hload | ⟨term, hterm, hblank, hlabels⟩ | hkey
        · exact absurd hne hload
        · obtain ⟨c, hc⟩ := hsearch term hterm
          rw [(searchCondition_eq_error_iff_of_associations h).2 ⟨hblank, hlabels, rfl⟩] at hc
          cases hc
        · exact hkey
      · push Not at hsearch
        obtain ⟨term, hterm, hfails⟩ := hsearch
        cases hresult : env.searchCondition record term with
        | ok c => exact absurd hresult (hfails c)
        | error d =>
          obtain ⟨-, -, rfl⟩ := (searchCondition_eq_error_iff_of_associations h).1 hresult
          exact .search hloads hterm hresult
    · exact .load (.undescribed hne h)

end Stages

/-! ### The order of a list -/

theorem sortColumn_of_hasColumn {name : String} (h : env.HasColumn record name) :
    env.sortColumn record (some name) = name := by
  have hsome : (env.schema.field? record name).isSome = true := by
    rw [Option.isSome_iff_ne_none, ne_eq, Schema.field?_eq_none_iff]
    obtain ⟨column, hcolumn, hname⟩ := h
    exact fun hnone => hnone column hcolumn hname
  simp [sortColumn, Option.filter, hsome]

/-- A list that asks for no column of its record type runs by the primary key. -/
theorem sortColumn_of_not_hasColumn {sort : Option String} (h : ∀ name ∈ sort, ¬env.HasColumn record name) :
    env.sortColumn record sort = record.primaryKey := by
  cases sort with
  | none => rfl
  | some name =>
    have hnone : env.schema.field? record name = none := by
      rw [Schema.field?_eq_none_iff]
      exact fun column hcolumn hname => h name rfl ⟨column, hcolumn, hname⟩
    simp [sortColumn, Option.filter, hnone]

end Environment

/-- **A list query is put together from parts that do not look at one another.**  It fails when the associations to
load cannot be described or are not declared, when the search fails or when the filters do, with the error of the
first stage at fault; associations that cannot be described matter only to a stage that needs them.  Otherwise it
is a query of the table of the record type, with the associations that were asked for, the conditions of search,
filters and primary keys in this order, and the order that was asked for, or that of the primary key.  The order
has no influence on the condition, nor have the associations to load; and no condition and no time have any on the
order. -/
theorem list_queries_compose (env : Environment) (record : RecordType) (request : ListRequest)
    (now : Instant) :
    ((∃ e, env.listQuery record request now = .error e) ↔
      (request.includes ≠ [] ∧ ((∃ e, env.associations record = .error e) ∨ ∃ associations,
        env.associations record = .ok associations ∧
          ∃ name ∈ request.includes, ∀ a ∈ associations, a.name ≠ name)) ∨
      (∃ term e, request.query = some term ∧ env.searchCondition record term = .error e) ∨
      ∃ e, env.filterCondition record request.filters now = .error e) ∧
    (∀ e, env.listQuery record request now = .error e ↔ env.ListFails record request now e) ∧
    (∀ d, env.associations record = .error d → ∀ e, env.listQuery record request now = .error e ↔ e = d ∧
      (request.includes ≠ [] ∨
        (∃ term, request.query = some term ∧ Text.isAllBlank term = false ∧
          env.config.searchBelongsTo = true) ∨
        ∃ filter ∈ request.filters.fields, ¬env.HasColumn record filter.field)) ∧
    (∀ query, env.listQuery record request now = .ok query →
      query.table = record.tableName ∧ query.includes = request.includes ∧
      (∃ search filters bulk, env.optionalSearch record request.query = .ok search ∧
        env.filterCondition record request.filters now = .ok filters ∧
        bulk = (if request.bulkIds = [] then .always
          else .oneOf (record.qualified record.primaryKey) request.bulkIds) ∧
        query.condition = .all [search.enclosed, filters.enclosed, bulk] ∧
        query.condition.bindings = search.bindings ++ filters.bindings ++ bulk.bindings) ∧
      (∀ name, request.sort = some name → env.HasColumn record name →
        query.sort.field = record.qualified name) ∧
      ((∀ name, request.sort = some name → ¬env.HasColumn record name) →
        query.sort.field = record.qualified record.primaryKey) ∧
      query.sort.direction = .ofReverse request.sortReverse) ∧
    (∀ other later query query', env.listQuery record request now = .ok query →
      env.listQuery record other later = .ok query' →
        (other.query = request.query → other.filters = request.filters →
          other.bulkIds = request.bulkIds → later = now → query'.condition = query.condition) ∧
        (other.sort = request.sort → other.sortReverse = request.sortReverse →
          query'.sort = query.sort)) := by
  refine ⟨?_, fun e => Environment.listQuery_eq_error_iff,
    fun d h e => Environment.listQuery_eq_error_iff_of_associations h, fun query h => ?_,
    fun other later query query' h h' => ?_⟩
  · rw [Environment.exists_listQuery_error_iff, Environment.exists_loadFails_iff]
  · obtain ⟨-, search, filters, hsearch, hfilters, rfl⟩ := Environment.listQuery_eq_ok_iff.1 h
    have hbulk := Environment.bulkCondition_eq record request.bulkIds
    refine ⟨rfl, rfl, ⟨search, filters, _, hsearch, hfilters, hbulk, rfl,
      Environment.bindings_list hsearch hfilters⟩, ?_, ?_, rfl⟩
    · intro name hname hcolumn
      show record.qualified (env.sortColumn record request.sort) = _
      rw [hname, Environment.sortColumn_of_hasColumn hcolumn]
    · intro hnone
      show record.qualified (env.sortColumn record request.sort) = _
      rw [Environment.sortColumn_of_not_hasColumn hnone]
  · obtain ⟨-, search, filters, hsearch, hfilters, rfl⟩ := Environment.listQuery_eq_ok_iff.1 h
    obtain ⟨-, search', filters', hsearch', hfilters', rfl⟩ := Environment.listQuery_eq_ok_iff.1 h'
    constructor
    · rintro hquery hsame hbulk rfl
      rw [hquery, hsearch] at hsearch'
      rw [hsame, hfilters] at hfilters'
      cases hsearch'
      cases hfilters'
      rw [hbulk]
    · intro hsort hreverse
      simp only [Environment.listSort, hsort, hreverse]

namespace Staff

/-- Employees of Sales or in department 7, of whom two are given by their keys, by name, with their managers. -/
def listed : ListRequest where
  query := some "Sales"
  filters := ⟨[⟨"department", [("0", ⟨none, "7"⟩)]⟩]⟩
  bulkIds := ["3", "5"]
  sort := some "name"
  sortReverse := true
  includes := ["manager"]

/-- The same employees in another order, without their managers. -/
def reordered : ListRequest :=
  { listed with sort := some "title", sortReverse := false, includes := [] }

/-- All employees in the first order. -/
def unfiltered : ListRequest :=
  { listed with query := none, filters := ⟨[]⟩, bulkIds := [] }

/-- Employees that are related to something by a declaration without a kind. -/
def unrelated : Environment :=
  environment.relinked environment.registry fun _ =>
    [{ Relationship.ofKind "belongs_to" "manager" with kind := none }]

end Staff

open Staff in
/-- One list of employees in two orders, and all employees in the first of them; of two associations that are not
declared the first is reported; and a term is not looked for where parents cannot be described. -/
theorem list_queries_compose_staff :
    ∃ query other all : ListQuery,
      environment.listQuery employee.recordType listed ⟨0, 0⟩ = .ok query ∧
      environment.listQuery employee.recordType reordered ⟨0, 0⟩ = .ok other ∧
      environment.listQuery employee.recordType unfiltered ⟨1, 0⟩ = .ok all ∧
      query.table = "employees" ∧ query.includes = ["manager"] ∧
      query.condition.bindings =
        [.text "%Sales%", .text "%Sales%", .text "%7%", .integer 7, .list ["3", "5"]] ∧
      query.sort = ⟨"employees.name", .ascending⟩ ∧ other.sort = ⟨"employees.id", .descending⟩ ∧
      other.condition = query.condition ∧ all.sort = query.sort ∧
      environment.listQuery employee.recordType { listed with includes := ["desk", "boss", "chief"] } ⟨0, 0⟩ =
        .error (.misconfigured "Employee" "boss" .undeclared) ∧
      unrelated.listQuery employee.recordType { listed with includes := [] } ⟨0, 0⟩ =
        .error (.misconfigured "Employee" "manager" .missingKind) := by
  have hquery : environment.listQuery employee.recordType listed ⟨0, 0⟩ = .ok ⟨"employees",
      ⟨"((employees.name LIKE ?) OR (departments.title LIKE ?)) AND (((departments.title LIKE ?) OR " ++
        "(employees.department_id = ?))) AND (employees.id IN (?))",
        [.text "%Sales%", .text "%Sales%", .text "%7%", .integer 7, .list ["3", "5"]]⟩,
      ⟨"employees.name", .ascending⟩, ["manager"]⟩ := by
    decide +kernel
  obtain ⟨other, hother⟩ : ∃ other, environment.listQuery employee.recordType reordered ⟨0, 0⟩ = .ok other :=
    ⟨_, rfl⟩
  obtain ⟨all, hall⟩ : ∃ all, environment.listQuery employee.recordType unfiltered ⟨1, 0⟩ = .ok all :=
    ⟨_, rfl⟩
  have hassociations : environment.associations employee.recordType = .ok held := by decide +kernel
  have hmissing : unrelated.associations employee.recordType =
      .error (.misconfigured "Employee" "manager" .missingKind) := by
    decide +kernel
  obtain ⟨-, -, -, hparts, hruns⟩ := list_queries_compose environment employee.recordType listed ⟨0, 0⟩
  obtain ⟨htable, hincludes, -⟩ := hparts _ hquery
  obtain ⟨-, -, -, hparts', -⟩ := list_queries_compose environment employee.recordType reordered ⟨0, 0⟩
  obtain ⟨-, -, -, -, hkey, hdirection⟩ := hparts' _ hother
  obtain ⟨-, hundeclared, -⟩ := list_queries_compose environment employee.recordType
    { listed with includes := ["desk", "boss", "chief"] } ⟨0, 0⟩
  obtain ⟨-, -, hneeds, -⟩ := list_queries_compose unrelated employee.recordType
    { listed with includes := [] } ⟨0, 0⟩
  refine ⟨_, other, all, hquery, hother, hall, htable, hincludes, rfl, rfl, ?_,
    (hruns _ _ _ _ hquery hother).1 rfl rfl rfl rfl, (hruns _ _ _ _ hquery hall).2 rfl rfl,
    (hundeclared _).2 ?_, (hneeds _ hmissing _).2 ⟨rfl, .inr (.inl ⟨"Sales", rfl, by decide, rfl⟩)⟩⟩
  · have hcolumn : ¬environment.HasColumn employee.recordType "title" :=
      Environment.columnSlot?_eq_none_iff.1 (by decide +kernel)
    have hfield := hkey fun name hname => Option.some.inj hname ▸ hcolumn
    calc other.sort = ⟨other.sort.field, other.sort.direction⟩ := rfl
      _ = ⟨"employees.id", .descending⟩ := by
        rw [hfield, hdirection]
        rfl
  · exact .load (@Environment.LoadFails.undeclared _ _ _ held ["desk"] ["chief"] "boss" hassociations rfl
      (by decide +kernel) (by decide +kernel))

end AdminQuery
