import AdminQuery.Proofs.Composition

/-!
# The language of condition texts

What a user submits never becomes text.  Every text is put together from parentheses, the two
separators and a fixed list of tests, and every column in it was declared in the catalog, or checked
when an association was described.

* `controlTexts`, `patternTexts`, `testTexts`: the texts of all tests on a column
* `Sentence`: the language over a set of column names
* `Catalog.Names`, `Catalog.ListNames`: the column names of a record type
* `sql_mem_testTexts`: **every test is on the list**
* `conditions_are_sentences`: **filters, searches and lists stay in the language**, and a list is sorted
  by a column of the record type or by its primary key
-/

namespace AdminQuery

/-! ### The language -/

/-- The tests that stand for a control token. -/
def controlTexts (column : String) : List String :=
  [column ++ " IS NULL OR " ++ column ++ " = ''", column ++ " IS NOT NULL AND " ++ column ++ " != ''",
    column ++ " IS NULL", column ++ " IS NOT NULL", column ++ " = ''", column ++ " != ''"]

/-- The matches against a pattern, with and without the announcement of escapes. -/
def patternTexts (column : String) : List String :=
  [column ++ " LIKE ?", column ++ " LIKE ?" ++ " ESCAPE '\\'",
    column ++ " ILIKE ?", column ++ " ILIKE ?" ++ " ESCAPE '\\'",
    "LOWER(" ++ column ++ ") LIKE LOWER(?)", "LOWER(" ++ column ++ ") LIKE LOWER(?)" ++ " ESCAPE '\\'"]

/-- The texts of all tests on a column. -/
def testTexts (column : String) : List String :=
  controlTexts column ++ patternTexts column ++
    [column ++ " = ?", column ++ " IS NULL OR " ++ column ++ " = ?", column ++ " IN (?)",
      column ++ " BETWEEN ? AND ?", column ++ " > ?", column ++ " < ?"]

/-- Texts of tests in parentheses, of `AND`, of `OR` and of further parentheses. -/
inductive Sentence (names : String → Prop) : String → Prop where
  | test {column text : String} :
    names column → text ∈ testTexts column → Sentence names ("(" ++ text ++ ")")
  | parenthesis {text : String} : Sentence names text → Sentence names ("(" ++ text ++ ")")
  | and {left right : String} :
    Sentence names left → Sentence names right → Sentence names (left ++ " AND " ++ right)
  | or {left right : String} :
    Sentence names left → Sentence names right → Sentence names (left ++ " OR " ++ right)

namespace Catalog

/-- A column written with its table: both are identifiers, and the column is one of the record type,
the key of a parent, or a column of a type that an association leads to. -/
def Names (catalog : Catalog) (config : Config) (record : RecordType) (column : String) : Prop :=
  ∃ table name type, column = table ++ "." ++ name ∧ Text.isIdentifier table = true ∧
    Text.isIdentifier name = true ∧ catalog.Origin config record table name type

/-- A list may name the primary key too. -/
def ListNames (catalog : Catalog) (config : Config) (record : RecordType) (column : String) : Prop :=
  catalog.Names config record column ∨
    column = record.tableName ++ "." ++ record.primaryKey ∧
      Text.isIdentifier record.tableName = true ∧ Text.isIdentifier record.primaryKey = true

end Catalog

/-! ### Tests are in the language -/

/-- **The text of a test is on the list, whatever values it binds.** -/
theorem sql_mem_testTexts (predicate : Predicate) (column : String) :
    predicate.sql column ∈ testTexts column := by
  cases predicate with
  | matchesPattern dialect escaped pattern =>
    cases dialect <;> cases escaped <;>
      simp [Predicate.sql, Dialect.patternMatch, Dialect.escapeClause, testTexts, patternTexts]
  | isBlank | isPresent | isNull | isNotNull | isEmpty | isNotEmpty =>
    simp [Predicate.sql, testTexts, controlTexts]
  | equals | isFalse | oneOf | between | after | before =>
    simp [Predicate.sql, testTexts]

theorem sentence_condition {names : String → Prop} {atom : Atom} (h : names atom.column) :
    Sentence names atom.condition.sql :=
  .test h (sql_mem_testTexts atom.predicate atom.column)

theorem composes_sentence (names : String → Prop) :
    Condition.Composes fun c => Sentence names c.sql where
  parenthesis h := .parenthesis h
  or hc hd := .or hc hd
  and hc hd := .and hc hd

theorem sql_of_trivialOr {names : String → Prop} {c : Condition}
    (h : c.TrivialOr fun c => Sentence names c.sql) : c.sql = "" ∨ Sentence names c.sql := by
  rcases h with rfl | h
  · exact .inl rfl
  · exact .inr h

/-! ### Columns are in the language -/

namespace Catalog

variable {catalog : Catalog} {config : Config} {record : RecordType}

theorem TestedAs.names (hc : catalog.WellFormed) (hr : record ∈ catalog.recordTypes)
    {column : String} {type : StorageType} (h : catalog.TestedAs config record column type) :
    catalog.Names config record column := by
  obtain ⟨table, name, declared, heq, horigin, -⟩ := h
  obtain ⟨htable, hname⟩ := horigin.isIdentifier hc hr
  exact ⟨table, name, declared, heq, htable, hname, horigin⟩

theorem names_of_filterAtom (hc : catalog.WellFormed) (hr : record ∈ catalog.recordTypes)
    {filters : FilterMap} {now : Instant} {entry : FilterEntry} {slot : Slot} {atom : Atom}
    (h : (catalog.environment config).FilterAtom record filters now entry slot atom) :
    catalog.Names config record atom.column := by
  obtain ⟨filter, -, -, ⟨slots, hslots, hslot⟩, hatom⟩ := h
  obtain ⟨predicate, -, rfl⟩ := Option.map_eq_some_iff.1 hatom
  exact (testedAs_of_filterTarget hc hr hslots slot hslot).names hc hr

theorem names_of_searchAtom (hc : catalog.WellFormed) (hr : record ∈ catalog.recordTypes)
    {term : String} {atom : Atom} (h : (catalog.environment config).SearchAtom record term atom) :
    catalog.Names config record atom.column := by
  obtain ⟨⟨columns, hcolumns, hcolumn⟩, -⟩ := h
  exact (testedAs_of_searchColumns hc hr hcolumns atom.column hcolumn).names hc hr

/-- The primary key is the column of the atom for given keys. -/
theorem listNames_of_bulkAtom? (hc : catalog.WellFormed) (hr : record ∈ catalog.recordTypes)
    {ids : List String} {atom : Atom} (h : Environment.bulkAtom? record ids = some atom) :
    catalog.ListNames config record atom.column := by
  obtain ⟨-, rfl⟩ := Environment.bulkAtom?_eq_some h
  exact .inr ⟨rfl, hc.isIdentifier_tableName hr, hc.isIdentifier_primaryKey hr⟩

/-- A list is sorted by a column of the record type, or by its primary key. -/
theorem sortColumn_cases (config : Config) (hc : catalog.WellFormed)
    (hr : record ∈ catalog.recordTypes) (sort : Option String) :
    (∃ column, catalog.Declares record column ∧
        (catalog.environment config).sortColumn record sort = column.name) ∨
      (catalog.environment config).sortColumn record sort = record.primaryKey := by
  rw [Environment.sortColumn]
  cases hsort : sort.filter fun name =>
      ((catalog.environment config).schema.field? record name).isSome with
  | none => exact .inr rfl
  | some name =>
    obtain ⟨-, hfield⟩ := Option.filter_eq_some_iff.1 hsort
    obtain ⟨field, hfield⟩ := Option.isSome_iff_exists.1 hfield
    obtain ⟨hmem, hname⟩ := Schema.mem_fields_of_field? hfield
    obtain ⟨column, hcolumn, heq, -⟩ := Schema.exists_column_of_mem_fields hmem
    exact .inl ⟨column, (hc.mem_columns_iff hr).1 hcolumn, hname.symm.trans heq⟩

end Catalog

/-! ### Conditions are in the language -/

/-- **Filters, searches and lists stay in the language over the columns of their record type**, and a
list is sorted by one of its columns or by its primary key. -/
theorem conditions_are_sentences {catalog : Catalog}
    (h : catalog.Reachable ∨ ∃ text, Catalog.ofText text = .ok catalog) (config : Config)
    {record : RecordType} (hr : record ∈ catalog.recordTypes) :
    (∀ filters now c, (catalog.environment config).filterCondition record filters now = .ok c →
      c.sql = "" ∨ Sentence (catalog.Names config record) c.sql) ∧
    (∀ term c, (catalog.environment config).searchCondition record term = .ok c →
      c.sql = "" ∨ Sentence (catalog.Names config record) c.sql) ∧
    ∀ request now query, (catalog.environment config).listQuery record request now = .ok query →
      (query.condition.sql = "" ∨
        Sentence (catalog.ListNames config record) query.condition.sql) ∧
      ∃ column, query.sort.field = record.tableName ++ "." ++ column ∧
        Text.isIdentifier record.tableName = true ∧ Text.isIdentifier column = true ∧
        ((∃ declared, catalog.Declares record declared ∧ column = declared.name) ∨
          column = record.primaryKey) := by
  have hc : catalog.WellFormed := by
    rcases h with h | ⟨text, h⟩
    · exact h.wellFormed
    · exact (Catalog.reachable_of_ofTextFrom h).wellFormed
  refine ⟨fun filters now c hok => ?_, fun term c hok => ?_, fun request now query hok => ⟨?_, ?_⟩⟩
  · refine sql_of_trivialOr ((composes_sentence _).filterCondition hok fun _ _ atom ha => ?_)
    exact sentence_condition (Catalog.names_of_filterAtom hc hr ha)
  · refine sql_of_trivialOr ((composes_sentence _).searchCondition hok fun atom ha => ?_)
    exact sentence_condition (Catalog.names_of_searchAtom hc hr ha)
  · refine sql_of_trivialOr ((composes_sentence _).listQuery hok ?_ ?_ ?_)
    · intro term atom _ ha
      exact sentence_condition (.inl (Catalog.names_of_searchAtom hc hr ha))
    · intro _ _ atom ha
      exact sentence_condition (.inl (Catalog.names_of_filterAtom hc hr ha))
    · intro atom ha
      exact sentence_condition (Catalog.listNames_of_bulkAtom? hc hr ha)
  · obtain ⟨_, _, -, -, -, hsort⟩ := Environment.listQuery_eq_ok hok
    refine ⟨_, congrArg SortOrder.field hsort, hc.isIdentifier_tableName hr, ?_, ?_⟩
    · rcases Catalog.sortColumn_cases config hc hr request.sort with
        ⟨column, hcolumn, heq⟩ | heq
      · rw [heq]
        exact hc.isIdentifier_column hcolumn
      · rw [heq]
        exact hc.isIdentifier_primaryKey hr
    · exact Catalog.sortColumn_cases config hc hr request.sort

namespace League

/-- Teams by name, with or without one, and by division. -/
def filters : FilterMap :=
  ⟨[⟨"name", [("0", ⟨some "is", "Jets'; --"⟩), ("1", ⟨none, "_null"⟩)]⟩,
    ⟨"division", [("0", ⟨none, "7"⟩)]⟩]⟩

end League

/-- What is entered for a team stays out of the text. -/
theorem conditions_are_sentences_league :
    League.catalog.Reachable ∧ League.team.recordType ∈ League.catalog.recordTypes ∧
    ∃ c, (League.catalog.environment .default).filterCondition League.team.recordType League.filters
        ⟨0, 0⟩ = .ok c ∧
      c.sql = "((teams.name LIKE ?) OR (teams.name IS NULL)) AND " ++
        "((divisions.name LIKE ?) OR (teams.division_id = ?))" ∧
      (c.sql = "" ∨ Sentence (League.catalog.Names .default League.team.recordType) c.sql) := by
  have hr : League.team.recordType ∈ League.catalog.recordTypes := by decide
  obtain ⟨hfilter, -⟩ := conditions_are_sentences (.inl League.reachable_catalog) .default hr
  refine ⟨League.reachable_catalog, hr, ⟨_, [.text "Jets'; --", .text "%7%", .integer 7]⟩, ?_, rfl,
    hfilter League.filters ⟨0, 0⟩ _ ?_⟩ <;> decide +kernel

end AdminQuery
