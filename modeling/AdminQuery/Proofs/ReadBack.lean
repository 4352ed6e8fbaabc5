import AdminQuery.Proofs.BooleanReading

/-!
# Conditions read back

Filters, searches and lists, read as boolean expressions.

* `Condition.Readable`: a condition that begins with a parenthesis and closes what it opens
* `holds_ofAlternatives`, `holds_ofClauses`: **the value of a search, and of filters**
* `Environment.KeyAtoms`, `Environment.TermAtoms`: the atoms of a key, and of a search term
* `conditions_are_read_back`: **texts are cut into the parts they were put together from, and have
  their value**
-/

namespace AdminQuery

open TopLevel

namespace Condition

/-! ### Atoms, groups and clauses -/

/-- A condition that begins with a parenthesis and closes what it opens. -/
structure Readable (c : Condition) : Prop where
  opens : c.sql.toList.head? = some '('
  matched : Matched c.sql.toList
  closed : c.IsClosed

theorem Readable.isAlways {c : Condition} (h : c.Readable) : c.isAlways = false := by
  have hopens := h.opens
  rw [Condition.isAlways, ← Bool.not_eq_true, String.isEmpty_iff]
  intro hempty
  rw [hempty] at hopens
  cases hopens

theorem composes_readable : Composes Readable where
  parenthesis {c} h := by
    refine ⟨by simp, ?_, composes_isClosed.parenthesis h.closed⟩
    simpa using h.matched.parenthesis
  or {c d} hc hd := by
    refine ⟨?_, ?_, composes_isClosed.or hc.closed hd.closed⟩
    · simp [hc.opens]
    · have hsep := hc.matched.append (by decide : Matched " OR ".toList)
      simpa using hsep.append hd.matched
  and {c d} hc hd := by
    refine ⟨?_, ?_, composes_isClosed.and hc.closed hd.closed⟩
    · simp [hc.opens]
    · have hsep := hc.matched.append (by decide : Matched " AND ".toList)
      simpa using hsep.append hd.matched

theorem toList_condition (atom : Atom) :
    atom.condition.sql.toList = '(' :: ((atom.predicate.sql atom.column).toList ++ [')']) := by
  simp [Atom.condition]

theorem grouped_condition {atom : Atom} (h : Text.IsPlain atom.column) : atom.condition.Grouped where
  parenthesized := ⟨_, toList_condition atom, matched_sql h atom.predicate⟩
  closed := isClosed_condition h

theorem readable_condition {atom : Atom} (h : Text.IsPlain atom.column) : atom.condition.Readable where
  opens := by simp [toList_condition]
  matched := by
    rw [toList_condition]
    exact (matched_sql h atom.predicate).parenthesis
  closed := isClosed_condition h

theorem Readable.grouped_enclosed {c : Condition} (h : c.Readable) : c.enclosed.Grouped := by
  have hne : ¬c.isAlways = true := by simp [h.isAlways]
  rw [enclosed, if_neg hne]
  exact ⟨⟨c.sql.toList, by simp, h.matched⟩, composes_isClosed.parenthesis h.closed⟩

/-- A group has the value of what is inside. -/
theorem Readable.termHolds_enclosed {c : Condition} (h : c.Readable) (truth : Condition → Bool) :
    c.enclosed.termHolds truth = c.holds truth := by
  have hne : ¬c.isAlways = true := by simp [h.isAlways]
  obtain ⟨tail, htail⟩ := List.head?_eq_some_iff.1 h.opens
  have hsql : ("(" ++ c.sql ++ ")").toList = '(' :: '(' :: (tail ++ [')']) := by simp [htail]
  have hinside : c.enclosed.inside? = some c := by
    rw [enclosed, if_neg hne, inside?, hsql]
    simp [← htail]
  rw [termHolds, hinside]

/-- A test does not begin with a parenthesis. -/
theorem head?_sql_ne {column : String} (h : Text.IsPlain column) (predicate : Predicate) :
    (predicate.sql column).toList.head? ≠ some '(' := by
  have hcolumn : column.toList.head?.getD ' ' ≠ '(' := by
    cases hhead : column.toList.head? with
    | none => decide
    | some c => exact h.ne (List.mem_of_head? hhead) (by decide)
  cases predicate with
  | matchesPattern dialect escaped pattern =>
    cases dialect <;> simp [Predicate.sql, Dialect.patternMatch, hcolumn]
  | isBlank | isPresent | isFalse | isNull | isNotNull | isEmpty | isNotEmpty =>
    simp [Predicate.sql, hcolumn]
  | equals | oneOf | between | after | before => simp [Predicate.sql, hcolumn]

theorem termHolds_condition {atom : Atom} (h : Text.IsPlain atom.column) (truth : Condition → Bool) :
    atom.condition.termHolds truth = truth atom.condition := by
  have hhead := head?_sql_ne h atom.predicate
  have hinside : atom.condition.inside? = none := by
    rw [inside?, toList_condition]
    generalize (atom.predicate.sql atom.column).toList = cs at hhead
    cases cs with
    | nil => rfl
    | cons c cs =>
      have hc : c ≠ '(' := by simpa using hhead
      simp [hc]
  rw [termHolds, hinside]

variable {atoms : List Atom} {clauses : List (List Atom)}

theorem readable_ofAlternatives (h : ∀ atom ∈ atoms, Text.IsPlain atom.column) :
    (ofAlternatives atoms).TrivialOr Readable :=
  composes_readable.ofAlternatives fun atom ha => readable_condition (h atom ha)

theorem readable_ofClauses (h : ∀ atoms ∈ clauses, ∀ atom ∈ atoms, Text.IsPlain atom.column) :
    (ofClauses clauses).TrivialOr Readable :=
  composes_readable.ofClauses fun atoms hatoms atom ha => readable_condition (h atoms hatoms atom ha)

theorem pieces_ofAlternatives (h : ∀ atom ∈ atoms, Text.IsPlain atom.column) :
    pieces " OR " (ofAlternatives atoms).sql = atoms.map fun atom => atom.condition.sql := by
  have hparts : ∀ part ∈ atoms.map Atom.condition, part.Grouped :=
    List.forall_mem_map.2 fun atom ha => grouped_condition (h atom ha)
  have hpieces : pieces " OR " (ofAlternatives atoms).sql = (atoms.map Atom.condition).map sql :=
    pieces_join rfl hparts
  rw [hpieces, List.map_map]
  rfl

/-- **Alternatives hold when one of the atoms does**, or when there are none. -/
theorem holds_ofAlternatives (truth : Condition → Bool)
    (h : ∀ atom ∈ atoms, Text.IsPlain atom.column) :
    (ofAlternatives atoms).holds truth =
      (atoms.isEmpty || atoms.any fun atom => truth atom.condition) := by
  have hparts : ∀ part ∈ atoms.map Atom.condition, part.Grouped :=
    List.forall_mem_map.2 fun atom ha => grouped_condition (h atom ha)
  have hterms : atoms.any (termHolds truth ∘ Atom.condition) =
      atoms.any fun atom => truth atom.condition :=
    any_congr_of_mem fun atom ha => termHolds_condition (h atom ha) truth
  rw [ofAlternatives, holds_any truth hparts, List.isEmpty_map, List.any_map, hterms]

/-- Parts that are groups or empty, joined by `AND`, are cut into those that are not empty. -/
theorem pieces_all {parts : List Condition} (h : ∀ part ∈ present parts, part.Grouped) :
    pieces " AND " (all parts).sql = (present parts).map sql := by
  rw [all, ← join_present]
  exact pieces_join rfl h

theorem holds_all_of_present (truth : Condition → Bool) {parts : List Condition}
    (h : ∀ part ∈ present parts, part.Grouped) :
    (all parts).holds truth = (present parts).all (termHolds truth) := by
  rw [← holds_all truth h, all, all, join_present]

theorem readable_of_ne_nil (hne : atoms ≠ []) (h : ∀ atom ∈ atoms, Text.IsPlain atom.column) :
    (ofAlternatives atoms).Readable := by
  rcases readable_ofAlternatives h with heq | hreadable
  · have halways := isAlways_ofAlternatives atoms
    rw [heq, isAlways_always, eq_comm, List.isEmpty_iff] at halways
    exact absurd halways hne
  · exact hreadable

theorem grouped_of_mem_clauses (h : ∀ atoms ∈ clauses, ∀ atom ∈ atoms, Text.IsPlain atom.column) :
    ∀ part ∈ present (clauses.map fun atoms => (ofAlternatives atoms).enclosed), part.Grouped := by
  rw [present_map_enclosed]
  refine List.forall_mem_map.2 fun atoms hatoms => ?_
  obtain ⟨hmem, hne⟩ := List.mem_filter.1 hatoms
  exact (readable_of_ne_nil (by simpa using hne) (h atoms hmem)).grouped_enclosed

/-- **Clauses hold when each of them with atoms has one that does.** -/
theorem holds_ofClauses (truth : Condition → Bool)
    (h : ∀ atoms ∈ clauses, ∀ atom ∈ atoms, Text.IsPlain atom.column) :
    (ofClauses clauses).holds truth =
      clauses.all fun atoms => atoms.isEmpty || atoms.any fun atom => truth atom.condition := by
  have hterms : ∀ atoms ∈ clauses,
      (!(!atoms.isEmpty) || termHolds truth (ofAlternatives atoms).enclosed) =
        (atoms.isEmpty || atoms.any fun atom => truth atom.condition) := by
    intro atoms hatoms
    by_cases hne : atoms = []
    · rw [hne]
      rfl
    · have hreadable := readable_of_ne_nil hne (h atoms hatoms)
      rw [hreadable.termHolds_enclosed, holds_ofAlternatives truth (h atoms hatoms),
        List.isEmpty_eq_false_iff.2 hne]
      rfl
  rw [ofClauses, holds_all_of_present truth (grouped_of_mem_clauses h), present_map_enclosed,
    List.all_map, List.all_filter]
  exact all_congr_of_mem hterms

/-- The parts of a list that are not empty. -/
theorem present_parts (search filters : Condition) (atom : Option Atom) :
    present [search.enclosed, filters.enclosed, (atom.map Atom.condition).getD .always] =
      (if search.isAlways then [] else [search.enclosed]) ++
        (if filters.isAlways then [] else [filters.enclosed]) ++
        (atom.map Atom.condition).toList := by
  cases hs : search.isAlways <;> cases hf : filters.isAlways <;> cases atom <;>
    simp [present, hs, hf, not_isAlways_condition]

theorem grouped_of_mem_parts {search filters : Condition} {atom : Option Atom}
    (hs : search.TrivialOr Readable) (hf : filters.TrivialOr Readable)
    (ha : ∀ a ∈ atom, Text.IsPlain a.column) :
    ∀ part ∈ present [search.enclosed, filters.enclosed, (atom.map Atom.condition).getD .always],
      part.Grouped := by
  intro part hpart
  have halways := not_isAlways_of_mem_present hpart
  have hpart := (List.mem_filter.1 hpart).1
  simp only [List.mem_cons, List.not_mem_nil, or_false] at hpart
  rcases hpart with rfl | rfl | rfl
  · rcases hs with rfl | hs
    · exact absurd halways (by decide)
    · exact hs.grouped_enclosed
  · rcases hf with rfl | hf
    · exact absurd halways (by decide)
    · exact hf.grouped_enclosed
  · cases atom with
    | none => exact absurd halways (by decide)
    | some a => exact grouped_condition (ha a rfl)

/-- A search or filters hold as a part of a list when they hold. -/
theorem TrivialOr.all_part {c : Condition} (h : c.TrivialOr Readable) (truth : Condition → Bool) :
    (if c.isAlways then [] else [c.enclosed]).all (termHolds truth) = c.holds truth := by
  rcases h with rfl | h
  · rw [holds_eq]
    rfl
  · simp [h.isAlways, h.termHolds_enclosed]

theorem map_sql_part (c : Condition) :
    (if c.isAlways then [] else [c.enclosed]).map sql =
      if c.isAlways then [] else ["(" ++ c.sql ++ ")"] := by
  cases hc : c.isAlways <;> simp [enclosed, hc]

theorem TrivialOr.matched {c : Condition} (h : c.TrivialOr Readable) : Matched c.sql.toList := by
  rcases h with rfl | h
  · rfl
  · exact h.matched

end Condition

/-! ### Conditions read back -/

/-- The atoms of a key, group after group; for one group those of the columns that the key stands for,
the label of a parent before its key. -/
def Environment.KeyAtoms (env : Environment) (record : RecordType) (now : Instant)
    (filter : FieldGroups) (atoms : List Atom) : Prop :=
  ∃ slots, env.filterTarget record filter.field = .ok slots ∧ env.KeySlots record filter.field slots ∧
    atoms = filter.groups.flatMap fun group => slots.filterMap fun slot =>
      group.2.atom? env.config.patternStyle slot.column slot.type now

/-- The atoms of a search: one for each column that it looks into, unless the term is blank. -/
def Environment.TermAtoms (env : Environment) (record : RecordType) (term : String)
    (atoms : List Atom) : Prop :=
  if Text.isAllBlank term = true then atoms = []
  else ∃ columns, env.searchColumns record = .ok columns ∧
    List.Forall₂ (fun column atom => env.searchAtom? term column = some atom) columns atoms

/-- One pair of parentheses, and what is inside is cut at `OR` into the atoms. -/
def ClausePiece (atoms : List Atom) (piece : String) : Prop :=
  ∃ inner, piece = "(" ++ inner ++ ")" ∧ Matched inner.toList ∧
    pieces " OR " inner = atoms.map fun atom => atom.condition.sql

theorem Environment.keyAtoms_of_filterClauses {env : Environment} {record : RecordType}
    {filters : FilterMap} {now : Instant} {clauses : List (List Atom)}
    (h : env.filterClauses record filters now = .ok clauses) :
    List.Forall₂ (env.KeyAtoms record now) filters.fields clauses := by
  refine (Fallible.mapM_eq_ok_iff.1 h).imp fun filter atoms hfield => ?_
  obtain ⟨slots, hslots, rfl⟩ := fieldAtoms_eq_ok hfield
  exact ⟨slots, hslots, keySlots_of_filterTarget hslots, rfl⟩

/-- A term that is not blank is matched against every column. -/
theorem Environment.termAtoms_of_searchAtoms {env : Environment} {record : RecordType} {term : String}
    {atoms : List Atom} (h : env.searchAtoms record term = .ok atoms) :
    env.TermAtoms record term atoms := by
  rw [searchAtoms] at h
  rw [TermAtoms]
  split at h
  · rename_i hblank
    rw [if_pos hblank]
    exact (Except.ok.inj h).symm
  · rename_i hblank
    obtain ⟨columns, hcolumns, h⟩ := Fallible.bind_eq_ok_iff.1 h
    cases h
    rw [if_neg hblank]
    refine ⟨columns, hcolumns, ?_⟩
    have hmatch : ∀ column, ∃ atom, env.searchAtom? term column = some atom := by
      intro column
      simp [searchAtom?, PatternStyle.predicate?, hblank]
    exact forall₂_filterMap hmatch columns

theorem clausePiece_enclosed {atoms : List Atom} (hne : atoms ≠ [])
    (h : ∀ atom ∈ atoms, Text.IsPlain atom.column) :
    ClausePiece atoms (Condition.ofAlternatives atoms).enclosed.sql := by
  have hreadable := Condition.readable_of_ne_nil hne h
  have halways : ¬(Condition.ofAlternatives atoms).isAlways = true := by simp [hreadable.isAlways]
  rw [Condition.enclosed, if_neg halways]
  exact ⟨_, rfl, hreadable.matched, Condition.pieces_ofAlternatives h⟩

theorem clausePieces_ofClauses {clauses : List (List Atom)}
    (h : ∀ atoms ∈ clauses, ∀ atom ∈ atoms, Text.IsPlain atom.column) :
    List.Forall₂ ClausePiece (clauses.filter fun atoms => !atoms.isEmpty)
      (pieces " AND " (Condition.ofClauses clauses).sql) := by
  rw [Condition.ofClauses, Condition.pieces_all (Condition.grouped_of_mem_clauses h),
    Condition.present_map_enclosed, List.map_map, List.forall₂_map_right_iff, List.forall₂_same]
  intro atoms hatoms
  obtain ⟨hmem, hne⟩ := List.mem_filter.1 hatoms
  exact clausePiece_enclosed (by simpa using hne) (h atoms hmem)

/-- The condition for given primary keys. -/
theorem Environment.bulkAtom?_map_condition (record : RecordType) (ids : List String) :
    (bulkAtom? record ids).map Atom.condition =
      if ids = [] then none
      else some ⟨"(" ++ record.tableName ++ "." ++ record.primaryKey ++ " IN (?))", [.list ids]⟩ := by
  by_cases hids : ids = []
  · simp [bulkAtom?, hids]
  · have hsql : "(" ++ (record.qualified record.primaryKey ++ " IN (?)") ++ ")" =
        "(" ++ record.tableName ++ "." ++ record.primaryKey ++ " IN (?))" := by
      simp [← String.toList_inj, RecordType.qualified]
    simpa [bulkAtom?, hids, Atom.condition, Predicate.sql, Predicate.bindings] using hsql

/-- **The text of a condition is cut into the parts it was put together from, and has their value.**
Filters are cut at `AND` into one clause for each key with atoms, and each clause at `OR` into the
atoms; searches are cut at `OR` into their atoms; lists are cut at `AND` into the search, the filters
and the given keys, as far as there are any. -/
theorem conditions_are_read_back {catalog : Catalog} (h : catalog.Reachable) (config : Config)
    {record : RecordType} (hr : record ∈ catalog.recordTypes) :
    (∀ filters now c, (catalog.environment config).filterCondition record filters now = .ok c →
      ∃ clauses,
        List.Forall₂ ((catalog.environment config).KeyAtoms record now) filters.fields clauses ∧
        List.Forall₂ ClausePiece (clauses.filter fun atoms => !atoms.isEmpty)
          (pieces " AND " c.sql) ∧
        ∀ truth, c.holds truth =
          clauses.all fun atoms => atoms.isEmpty || atoms.any fun atom => truth atom.condition) ∧
    (∀ term c, (catalog.environment config).searchCondition record term = .ok c →
      ∃ atoms, (catalog.environment config).TermAtoms record term atoms ∧
        pieces " OR " c.sql = atoms.map (fun atom => atom.condition.sql) ∧
        ∀ truth, c.holds truth =
          (atoms.isEmpty || atoms.any fun atom => truth atom.condition)) ∧
    ∀ request now query, (catalog.environment config).listQuery record request now = .ok query →
      ∃ search filters,
        (request.query = none → search = .always) ∧
        (∀ term, request.query = some term →
          (catalog.environment config).searchCondition record term = .ok search) ∧
        (catalog.environment config).filterCondition record request.filters now = .ok filters ∧
        Matched search.sql.toList ∧ Matched filters.sql.toList ∧
        pieces " AND " query.condition.sql =
          (if search.isAlways then [] else ["(" ++ search.sql ++ ")"]) ++
            (if filters.isAlways then [] else ["(" ++ filters.sql ++ ")"]) ++
            (if request.bulkIds = [] then []
              else ["(" ++ record.tableName ++ "." ++ record.primaryKey ++ " IN (?))"]) ∧
        ∀ truth, query.condition.holds truth =
          (search.holds truth && filters.holds truth &&
            (request.bulkIds.isEmpty ||
              truth ⟨"(" ++ record.tableName ++ "." ++ record.primaryKey ++ " IN (?))",
                [.list request.bulkIds]⟩)) := by
  have hc := h.wellFormed
  refine ⟨fun filters now c hok => ?_, fun term c hok => ?_, fun request now query hok => ?_⟩
  · obtain ⟨clauses, hclauses, rfl⟩ := Fallible.map_eq_ok_iff.1 hok
    have hplain := Catalog.isPlain_of_filterClauses hc hr hclauses
    exact ⟨clauses, Environment.keyAtoms_of_filterClauses hclauses, clausePieces_ofClauses hplain,
      fun truth => Condition.holds_ofClauses truth hplain⟩
  · obtain ⟨atoms, hatoms, rfl⟩ := Fallible.map_eq_ok_iff.1 hok
    have hplain := Catalog.isPlain_of_searchAtoms hc hr hatoms
    exact ⟨atoms, Environment.termAtoms_of_searchAtoms hatoms, Condition.pieces_ofAlternatives hplain,
      fun truth => Condition.holds_ofAlternatives truth hplain⟩
  · obtain ⟨search, filters, hsearch, hfilters, heq, -⟩ := Environment.listQuery_eq_ok hok
    have hs : search.TrivialOr Condition.Readable := by
      cases hterm : request.query with
      | some term =>
        rw [hterm] at hsearch
        obtain ⟨atoms, hatoms, rfl⟩ := Fallible.map_eq_ok_iff.1 hsearch
        exact Condition.readable_ofAlternatives (Catalog.isPlain_of_searchAtoms hc hr hatoms)
      | none =>
        rw [hterm] at hsearch
        cases hsearch
        exact .inl rfl
    have hf : filters.TrivialOr Condition.Readable := by
      obtain ⟨clauses, hclauses, rfl⟩ := Fallible.map_eq_ok_iff.1 hfilters
      exact Condition.readable_ofClauses (Catalog.isPlain_of_filterClauses hc hr hclauses)
    have hbulk : ∀ atom ∈ Environment.bulkAtom? record request.bulkIds,
        Text.IsPlain atom.column := by
      intro atom hatom
      obtain ⟨-, rfl⟩ := Environment.bulkAtom?_eq_some hatom
      exact Text.isPlain_qualified (hc.isIdentifier_tableName hr) (hc.isIdentifier_primaryKey hr)
    have hparts := Condition.grouped_of_mem_parts hs hf hbulk
    refine ⟨search, filters, fun hnone => ?_, fun term hterm => ?_, hfilters, hs.matched, hf.matched, ?_,
      fun truth => ?_⟩
    · rw [hnone] at hsearch
      exact (Except.ok.inj hsearch).symm
    · rw [hterm] at hsearch
      exact hsearch
    · rw [heq, Environment.bulkCondition, Condition.pieces_all hparts, Condition.present_parts,
        List.map_append, List.map_append, Condition.map_sql_part, Condition.map_sql_part,
        Environment.bulkAtom?_map_condition]
      by_cases hids : request.bulkIds = [] <;> simp [hids]
    · rw [heq, Environment.bulkCondition, Condition.holds_all_of_present truth hparts,
        Condition.present_parts, List.all_append, List.all_append, hs.all_part, hf.all_part]
      have hterm : ((Environment.bulkAtom? record request.bulkIds).map Atom.condition).toList.all
          (Condition.termHolds truth) =
            ((Environment.bulkAtom? record request.bulkIds).map Atom.condition).toList.all truth := by
        cases hatom : Environment.bulkAtom? record request.bulkIds with
        | none => rfl
        | some atom => simp [Condition.termHolds_condition (hbulk atom hatom)]
      rw [hterm, Environment.bulkAtom?_map_condition]
      by_cases hids : request.bulkIds = []
      · simp [hids]
      · simp [hids, List.isEmpty_eq_false_iff.2 hids]

open League in
/-- The clauses on teams, the atoms of a search, and the parts of a list: its search, its filters and the
two keys that it is to be restricted to. -/
theorem conditions_are_read_back_league :
    catalog.Reachable ∧ team.recordType ∈ catalog.recordTypes ∧
    (∃ (c : Condition) (clauses : List (List Atom)),
      (catalog.environment .default).filterCondition team.recordType filters ⟨0, 0⟩ = .ok c ∧
      pieces " AND " c.sql = ["((teams.name LIKE ?) OR (teams.name IS NULL))",
        "((divisions.name LIKE ?) OR (teams.division_id = ?))"] ∧
      List.Forall₂ ClausePiece (clauses.filter fun atoms => !atoms.isEmpty) (pieces " AND " c.sql) ∧
      ∀ truth, c.holds truth =
        clauses.all fun atoms => atoms.isEmpty || atoms.any fun atom => truth atom.condition) ∧
    (∃ (c : Condition) (atoms : List Atom),
      (catalog.environment .default).searchCondition team.recordType "east" = .ok c ∧
      pieces " OR " c.sql = ["(teams.name LIKE ?)", "(divisions.name LIKE ?)"] ∧
      pieces " OR " c.sql = atoms.map (fun atom => atom.condition.sql) ∧
      ∀ truth, c.holds truth = (atoms.isEmpty || atoms.any fun atom => truth atom.condition)) ∧
    ∃ query search filters,
      (catalog.environment .default).listQuery team.recordType request ⟨0, 0⟩ = .ok query ∧
      pieces " AND " query.condition.sql = ["((teams.name LIKE ?) OR (divisions.name LIKE ?))",
        "(((divisions.name LIKE ?) OR (teams.division_id = ?)) AND ((teams.founded BETWEEN ? AND ?)))",
        "(teams.id IN (?))"] ∧
      ∀ truth, query.condition.holds truth = (Condition.holds truth search &&
        Condition.holds truth filters && truth ⟨"(teams.id IN (?))", [.list ["3", "5"]]⟩) := by
  have hr : team.recordType ∈ catalog.recordTypes := by decide
  have hc : (catalog.environment .default).filterCondition team.recordType filters ⟨0, 0⟩ =
      .ok ⟨"((teams.name LIKE ?) OR (teams.name IS NULL)) AND " ++
        "((divisions.name LIKE ?) OR (teams.division_id = ?))",
        [.text "Jets'; --", .text "%7%", .integer 7]⟩ := by decide +kernel
  have hs : (catalog.environment .default).searchCondition team.recordType "east" =
      .ok ⟨"(teams.name LIKE ?) OR (divisions.name LIKE ?)", [.text "%east%", .text "%east%"]⟩ := by
    decide +kernel
  have hq : (catalog.environment .default).listQuery team.recordType request ⟨0, 0⟩ =
      .ok ⟨"teams", ⟨"((teams.name LIKE ?) OR (divisions.name LIKE ?)) AND " ++
        "(((divisions.name LIKE ?) OR (teams.division_id = ?)) AND " ++
        "((teams.founded BETWEEN ? AND ?))) AND (teams.id IN (?))",
        [.text "%east%", .text "%east%", .text "%7%", .integer 7, .timestamp ⟨-315532800, 0⟩,
          .timestamp ⟨-315446401, 999999000⟩, .list ["3", "5"]]⟩, ⟨"teams.id", .descending⟩, []⟩ := by
    decide +kernel
  obtain ⟨hfilter, hsearch, hlist⟩ := conditions_are_read_back reachable_catalog .default hr
  obtain ⟨clauses, -, hpieces, hholds⟩ := hfilter filters ⟨0, 0⟩ _ hc
  obtain ⟨atoms, -, hterms, hany⟩ := hsearch "east" _ hs
  obtain ⟨search, filters, -, -, -, -, -, -, hall⟩ := hlist request ⟨0, 0⟩ _ hq
  refine ⟨reachable_catalog, hr, ⟨_, clauses, hc, by decide +kernel, hpieces, hholds⟩,
    ⟨_, atoms, hs, by decide +kernel, hterms, hany⟩, _, search, filters, hq, by decide +kernel, hall⟩

end AdminQuery
