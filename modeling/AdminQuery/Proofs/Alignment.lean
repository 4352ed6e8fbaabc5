import AdminQuery.Proofs.Placeholders
import AdminQuery.Proofs.TypedValues

/-!
# Placeholders and the values bound to them

* `Condition.IsClosed`: as many placeholders as values, and all literals closed
* `Aligned`: text and the atoms in it, in order
* `Condition.MadeOf`: a condition with these atoms in its text, and with their values
* `madeOf_join`: **a join has the atoms of its parts, part after part**
* `Condition.Bound`: every placeholder stands in the atom that binds the value at its place
* `Catalog.FilterTests`, `Catalog.SearchTests`, `Catalog.ListTests`: the atoms of filters, of searches
  and of lists
* `conditions_are_bound`: **every placeholder of a condition has its value, of the type of its column**
-/

namespace AdminQuery

/-! ### Conditions that close their literals -/

namespace Condition

/-- As many placeholders as values, and all literals closed. -/
def IsClosed (c : Condition) : Prop :=
  Placeholder.Closed c.bindings.length c.sql.toList

instance (c : Condition) : Decidable c.IsClosed :=
  inferInstanceAs (Decidable (Placeholder.Closed _ _))

theorem IsClosed.separated {c d : Condition} (hc : c.IsClosed) (hd : d.IsClosed) {separator : String}
    (hs : Placeholder.Closed 0 separator.toList) :
    IsClosed ⟨c.sql ++ separator ++ d.sql, c.bindings ++ d.bindings⟩ := by
  have hclosed := (Placeholder.Closed.append hc hs).append hd
  simpa [IsClosed] using hclosed

theorem IsClosed.bindings_eq_nil {c : Condition} (h : c.IsClosed) (hempty : c.isAlways = true) :
    c.bindings = [] := by
  have hsql : c.sql = "" := by simpa [isAlways] using hempty
  rw [IsClosed, hsql] at h
  exact List.length_eq_zero_iff.1 h.1.symm

theorem composes_isClosed : Composes IsClosed where
  parenthesis {c} h := by
    have hopen : Placeholder.Closed 0 "(".toList := by decide
    have hclose : Placeholder.Closed 0 ")".toList := by decide
    have hclosed := (hopen.append h).append hclose
    simpa [IsClosed] using hclosed
  or hc hd := hc.separated hd (by decide)
  and hc hd := hc.separated hd (by decide)

theorem isClosed_of_trivialOr {c : Condition} (h : c.TrivialOr IsClosed) : c.IsClosed := by
  rcases h with rfl | h
  · exact ⟨rfl, rfl⟩
  · exact h

theorem isClosed_condition {atom : Atom} (h : Text.IsPlain atom.column) :
    atom.condition.IsClosed := by
  have hsql : IsClosed ⟨atom.predicate.sql atom.column, atom.predicate.bindings⟩ :=
    closed_sql h atom.predicate
  have hcondition := composes_isClosed.parenthesis hsql
  exact hcondition

end Condition

/-! ### Text and atoms side by side -/

/-- Text and the atoms in it, in order; what stands between atoms has no placeholders. -/
inductive Aligned : List Atom → List Char → Prop where
  | between {cs : List Char} :
    (∀ c ∈ cs, c ≠ '?' ∧ c ≠ Placeholder.quote) → Aligned [] cs
  | atom {atom : Atom} : Text.IsPlain atom.column → Aligned [atom] atom.condition.sql.toList
  | append {front back : List Atom} {left right : List Char} :
    Aligned front left → Aligned back right → Aligned (front ++ back) (left ++ right)

theorem Aligned.closed {atoms : List Atom} {cs : List Char} (h : Aligned atoms cs) :
    Placeholder.Closed (boundValues atoms).length cs := by
  induction h with
  | between hcs => exact Placeholder.closed_of_forall hcs
  | @atom atom hplain =>
    have hclosed := Condition.isClosed_condition hplain
    simpa [boundValues, Condition.IsClosed] using hclosed
  | append _ _ ihl ihr =>
    rw [boundValues_append, List.length_append]
    exact ihl.append ihr

theorem Aligned.isPlain {atoms : List Atom} {cs : List Char} (h : Aligned atoms cs) :
    ∀ atom ∈ atoms, Text.IsPlain atom.column := by
  induction h with
  | between =>
    intro atom ha
    cases ha
  | atom hplain =>
    intro atom ha
    rwa [List.mem_singleton.1 ha]
  | append _ _ ihl ihr =>
    intro atom ha
    rcases List.mem_append.1 ha with ha | ha
    · exact ihl atom ha
    · exact ihr atom ha

/-- **Each atom stands behind text with a placeholder for each value of the atoms in front of it.** -/
theorem Aligned.exists_before {atoms : List Atom} {cs : List Char} (h : Aligned atoms cs) :
    ∀ {front back : List Atom} {atom : Atom}, atoms = front ++ atom :: back →
      ∃ before after, cs = before ++ atom.condition.sql.toList ++ after ∧
        Placeholder.Closed (boundValues front).length before := by
  induction h with
  | between =>
    intro front back atom heq
    simp at heq
  | @atom one hplain =>
    intro front back atom heq
    obtain ⟨rfl, rfl, rfl⟩ : front = [] ∧ one = atom ∧ back = [] := by
      cases front <;> simp_all
    exact ⟨[], [], by simp, ⟨rfl, rfl⟩⟩
  | @append front' back' left right hl _ ihl ihr =>
    intro front back atom heq
    rcases List.append_eq_append_iff.1 heq with ⟨more, rfl, hmore⟩ | ⟨more, hfront, hmore⟩
    · obtain ⟨before, after, rfl, hbefore⟩ := ihr hmore
      refine ⟨left ++ before, after, by simp, ?_⟩
      rw [boundValues_append, List.length_append]
      exact hl.closed.append hbefore
    · cases more with
      | nil =>
        rw [List.append_nil] at hfront
        have hsplit : back' = [] ++ atom :: back := hmore.symm
        obtain ⟨before, after, rfl, hbefore⟩ := ihr hsplit
        refine ⟨left ++ before, after, by simp, ?_⟩
        rw [← hfront, ← Nat.add_zero (boundValues front').length]
        exact hl.closed.append hbefore
      | cons a more =>
        obtain ⟨rfl, -⟩ := List.cons.inj hmore
        obtain ⟨before, after, rfl, hbefore⟩ := ihl hfront
        exact ⟨before, after ++ right, by simp, hbefore⟩

/-- Every value is bound by one of the atoms. -/
theorem exists_atom_of_lt {atoms : List Atom} : ∀ {i : Nat}, i < (boundValues atoms).length →
    ∃ front atom back, atoms = front ++ atom :: back ∧ (boundValues front).length ≤ i ∧
      i < (boundValues front).length + atom.condition.bindings.length := by
  induction atoms with
  | nil =>
    intro i hi
    cases hi
  | cons atom rest ih =>
    intro i hi
    have hlength : (boundValues (atom :: rest)).length =
        atom.condition.bindings.length + (boundValues rest).length := by
      simp [boundValues]
    rcases Nat.lt_or_ge i atom.condition.bindings.length with hlt | hge
    · refine ⟨[], atom, rest, rfl, Nat.zero_le i, ?_⟩
      simpa [boundValues] using hlt
    · obtain ⟨front, found, back, rfl, hle, hlt⟩ :=
        ih (i := i - atom.condition.bindings.length) (by omega)
      have hfront : (boundValues (atom :: front)).length =
          atom.condition.bindings.length + (boundValues front).length := by
        simp [boundValues]
      exact ⟨atom :: front, found, back, rfl, by omega, by omega⟩

namespace Condition

/-- A condition with these atoms in its text, in order, that binds their values. -/
structure MadeOf (c : Condition) (atoms : List Atom) : Prop where
  aligned : Aligned atoms c.sql.toList
  bindings : c.bindings = boundValues atoms

theorem madeOf_always : always.MadeOf [] :=
  ⟨.between (by simp [always]), rfl⟩

theorem madeOf_condition {atom : Atom} (h : Text.IsPlain atom.column) :
    atom.condition.MadeOf [atom] :=
  ⟨.atom h, by simp [boundValues]⟩

theorem MadeOf.isClosed {c : Condition} {atoms : List Atom} (h : c.MadeOf atoms) : c.IsClosed := by
  rw [IsClosed, h.bindings]
  exact h.aligned.closed

theorem MadeOf.enclosed {c : Condition} {atoms : List Atom} (h : c.MadeOf atoms) :
    c.enclosed.MadeOf atoms := by
  refine ⟨?_, by rw [bindings_enclosed, h.bindings]⟩
  rw [Condition.enclosed]
  split
  · exact h.aligned
  · have hopen : Aligned [] "(".toList := .between (by simp [Placeholder.quote])
    have hclose : Aligned [] ")".toList := .between (by simp [Placeholder.quote])
    have haligned := (hopen.append h.aligned).append hclose
    simpa using haligned

/-- **A join has the atoms of its parts, part after part.** -/
theorem madeOf_join {separator : String} (hs : ∀ c ∈ separator.toList, c ≠ '?' ∧ c ≠ Placeholder.quote)
    {rows : List (List Atom)} {parts : List Condition}
    (h : List.Forall₂ (fun atoms part => part.MadeOf atoms) rows parts) :
    (join separator parts).MadeOf rows.flatten := by
  induction h with
  | nil => exact madeOf_always
  | @cons atoms part rows parts hpart _ ih =>
    obtain ⟨between, hbetween, hjoin⟩ :=
      exists_join_cons separator part parts hpart.isClosed.bindings_eq_nil
    rw [hjoin, List.flatten_cons]
    refine ⟨?_, by rw [hpart.bindings, ih.bindings, boundValues_append]⟩
    have haligned : Aligned [] between.toList := by
      refine .between ?_
      rcases hbetween with rfl | rfl
      · simp
      · exact hs
    simpa using hpart.aligned.append (haligned.append ih.aligned)

theorem madeOf_ofAlternatives {atoms : List Atom} (h : ∀ atom ∈ atoms, Text.IsPlain atom.column) :
    (ofAlternatives atoms).MadeOf atoms := by
  have hrows : List.Forall₂ (fun row part => MadeOf part row) (atoms.map fun atom => [atom])
      (atoms.map Atom.condition) := by
    rw [List.forall₂_map_left_iff, List.forall₂_map_right_iff, List.forall₂_same]
    exact fun atom ha => madeOf_condition (h atom ha)
  have hjoin : (ofAlternatives atoms).MadeOf (atoms.map fun atom => [atom]).flatten :=
    madeOf_join (by simp [Placeholder.quote]) hrows
  rwa [← List.flatMap_def, List.flatMap_singleton'] at hjoin

theorem madeOf_ofClauses {clauses : List (List Atom)}
    (h : ∀ atoms ∈ clauses, ∀ atom ∈ atoms, Text.IsPlain atom.column) :
    (ofClauses clauses).MadeOf clauses.flatten := by
  have hrows : List.Forall₂ (fun row part => MadeOf part row) clauses
      (clauses.map fun atoms => (ofAlternatives atoms).enclosed) := by
    rw [List.forall₂_map_right_iff, List.forall₂_same]
    exact fun atoms hatoms => (madeOf_ofAlternatives (h atoms hatoms)).enclosed
  exact madeOf_join (by simp [Placeholder.quote]) hrows

/-- Text and values of a condition belong together: as many placeholders as values, all literals closed,
and each placeholder in the atom that binds the value at its place. -/
structure Bound (c : Condition) (atoms : List Atom) : Prop where
  arity : c.arity = c.bindings.length
  literals : Placeholder.literalAfter false c.sql.toList = false
  bindings : c.bindings = boundValues atoms
  /-- The `i`-th placeholder, at the position `k`. -/
  placeholder : ∀ i k, (Placeholder.positions false 0 c.sql.toList)[i]? = some k →
    ∃ front atom back before after, atoms = front ++ atom :: back ∧
      c.sql.toList = before ++ atom.condition.sql.toList ++ after ∧
      Placeholder.Closed (boundValues front).length before ∧
      ((boundValues front).length ≤ i ∧
        i < (boundValues front).length + atom.condition.bindings.length) ∧
      before.length ≤ k ∧ k < before.length + atom.condition.sql.toList.length

/-- **A condition that is made of atoms is bound by them.** -/
theorem MadeOf.bound {c : Condition} {atoms : List Atom} (h : c.MadeOf atoms) : c.Bound atoms where
  arity := h.isClosed.1
  literals := h.isClosed.2
  bindings := h.bindings
  placeholder i k hk := by
    have hi : i < (boundValues atoms).length := by
      rw [← h.aligned.closed.1, ← Placeholder.length_positions c.sql.toList false 0]
      exact (List.getElem?_eq_some_iff.1 hk).1
    obtain ⟨front, atom, back, rfl, hle, hlt⟩ := exists_atom_of_lt hi
    obtain ⟨before, after, hsql, hbefore⟩ := h.aligned.exists_before rfl
    refine ⟨front, atom, back, before, after, rfl, hsql, hbefore, ⟨hle, hlt⟩, ?_⟩
    -- The placeholders in front of the atom are as many as the values in front of its own.
    have hown : atom.condition.IsClosed := isClosed_condition (h.aligned.isPlain atom (by simp))
    have hfront : (Placeholder.positions false 0 before).length = (boundValues front).length := by
      rw [Placeholder.length_positions, hbefore.1]
    have hlength : (Placeholder.positions false before.length atom.condition.sql.toList).length =
        atom.condition.bindings.length := by
      rw [Placeholder.length_positions, hown.1]
    rw [hsql, List.append_assoc, Placeholder.positions_append, hbefore.2, Placeholder.positions_append,
      hown.2, Nat.zero_add, List.getElem?_append_right (by omega),
      List.getElem?_append_left (by omega)] at hk
    exact Placeholder.bounds_of_mem_positions (List.mem_of_getElem? hk)

end Condition

/-! ### The atoms of filters, searches and lists -/

namespace Catalog

/-- A test of a column that a condition on `record` may name; for the value `value` it fits the type of
the column. -/
def Fitting (catalog : Catalog) (config : Config) (record : RecordType) (value : String)
    (atom : Atom) : Prop :=
  ∃ table name type, catalog.Origin config record table name type ∧
    atom.column = table ++ "." ++ name ∧
    Fits value atom.column type (atom.predicate.sql atom.column) atom.predicate.bindings

/-- The atoms of a key, group after group; those of a group fit the value that was submitted for it. -/
def KeyTests (catalog : Catalog) (config : Config) (record : RecordType) (now : Instant)
    (filter : FieldGroups) (atoms : List Atom) : Prop :=
  ∃ slots, (catalog.environment config).filterTarget record filter.field = .ok slots ∧
    atoms = (filter.groups.flatMap fun group =>
      (catalog.environment config).groupAtoms slots group.2 now) ∧
    ∀ group ∈ filter.groups, ∀ atom ∈ (catalog.environment config).groupAtoms slots group.2 now,
      catalog.Fitting config record group.2.value atom

/-- The atoms of a filter map, key after key. -/
def FilterTests (catalog : Catalog) (config : Config) (record : RecordType) (filters : FilterMap)
    (now : Instant) (atoms : List Atom) : Prop :=
  ∃ rows, atoms = rows.flatten ∧
    List.Forall₂ (catalog.KeyTests config record now) filters.fields rows

/-- The atoms of a search: matches of textual columns. -/
def SearchTests (catalog : Catalog) (config : Config) (record : RecordType)
    (atoms : List Atom) : Prop :=
  ∀ atom ∈ atoms, ∃ table name type pattern, catalog.Origin config record table name type ∧
    type.isTextual = true ∧ atom.column = table ++ "." ++ name ∧
    atom.predicate.sql atom.column ∈ patternTexts atom.column ∧
    atom.predicate.bindings = [.text pattern]

/-- The atom for given primary keys, which binds all of them in order. -/
def keyTest (record : RecordType) (ids : List String) : List Atom :=
  if ids = [] then [] else [⟨record.tableName ++ "." ++ record.primaryKey, .oneOf ids⟩]

/-- The atoms of a list: those of its search, those of its filters, and the one for given keys. -/
def ListTests (catalog : Catalog) (config : Config) (record : RecordType) (request : ListRequest)
    (now : Instant) (atoms : List Atom) : Prop :=
  ∃ searched filtered, atoms = searched ++ filtered ++ keyTest record request.bulkIds ∧
    (request.query = none → searched = []) ∧ catalog.SearchTests config record searched ∧
    catalog.FilterTests config record request.filters now filtered

variable {catalog : Catalog} {config : Config} {record : RecordType}

theorem TestedAs.isPlain (hc : catalog.WellFormed) (hr : record ∈ catalog.recordTypes)
    {column : String} {type : StorageType} (h : catalog.TestedAs config record column type) :
    Text.IsPlain column := by
  obtain ⟨table, name, rfl, htable, hname⟩ := h.exists_isIdentifier hc hr
  exact Text.isPlain_qualified htable hname

/-- An atom of a group fits the value that was submitted for the group. -/
theorem fitting_of_mem_groupAtoms (hc : catalog.WellFormed) (hr : record ∈ catalog.recordTypes)
    {key : String} {slots : List Slot} {entry : FilterEntry} {now : Instant} {atom : Atom}
    (hslots : (catalog.environment config).filterTarget record key = .ok slots)
    (h : atom ∈ (catalog.environment config).groupAtoms slots entry now) :
    catalog.Fitting config record entry.value atom := by
  obtain ⟨slot, hslot, hatom⟩ := List.mem_filterMap.1 h
  obtain ⟨predicate, hpredicate, rfl⟩ := Option.map_eq_some_iff.1 hatom
  obtain ⟨table, name, declared, heq, horigin, htype⟩ :=
    testedAs_of_filterTarget hc hr hslots slot hslot
  have hfits := fits_of_predicate? hpredicate slot.column
  refine ⟨table, name, declared, horigin, heq, ?_⟩
  rcases htype with rfl | ⟨ht, hd⟩
  · exact hfits
  · exact hfits.of_isTextual ht hd

theorem filterTests_of_filterClauses (hc : catalog.WellFormed) (hr : record ∈ catalog.recordTypes)
    {filters : FilterMap} {now : Instant} {clauses : List (List Atom)}
    (h : (catalog.environment config).filterClauses record filters now = .ok clauses) :
    catalog.FilterTests config record filters now clauses.flatten := by
  refine ⟨clauses, rfl, (Fallible.mapM_eq_ok_iff.1 h).imp fun filter atoms hfield => ?_⟩
  obtain ⟨slots, hslots, rfl⟩ := Environment.fieldAtoms_eq_ok hfield
  exact ⟨slots, hslots, rfl, fun _ _ _ hatom => fitting_of_mem_groupAtoms hc hr hslots hatom⟩

theorem searchTests_of_searchAtoms (hc : catalog.WellFormed) (hr : record ∈ catalog.recordTypes)
    {term : String} {atoms : List Atom}
    (h : (catalog.environment config).searchAtoms record term = .ok atoms) :
    catalog.SearchTests config record atoms := by
  intro atom hatom
  obtain ⟨⟨columns, hcolumns, hcolumn⟩, hmatch⟩ := Environment.searchAtom_of_mem h hatom
  obtain ⟨table, name, declared, heq, horigin, htype⟩ :=
    testedAs_of_searchColumns hc hr hcolumns atom.column hcolumn
  have htextual : declared.isTextual = true := by
    rcases htype with rfl | htype
    · rfl
    · exact htype.2
  obtain ⟨predicate, hpredicate, hown⟩ := Option.map_eq_some_iff.1 hmatch
  have hpattern : atom.predicate = predicate := by rw [← hown]
  rw [PatternStyle.predicate?] at hpredicate
  split at hpredicate
  · cases hpredicate
  · cases hpredicate
    rw [hpattern]
    exact ⟨table, name, declared, _, horigin, htextual, heq, sql_mem_patternTexts _ _ _ _, rfl⟩

/-- The columns that filters test are plain. -/
theorem isPlain_of_filterClauses (hc : catalog.WellFormed) (hr : record ∈ catalog.recordTypes)
    {filters : FilterMap} {now : Instant} {clauses : List (List Atom)}
    (h : (catalog.environment config).filterClauses record filters now = .ok clauses) :
    ∀ atoms ∈ clauses, ∀ atom ∈ atoms, Text.IsPlain atom.column := by
  intro atoms hatoms atom hatom
  obtain ⟨entry, slot, filter, -, -, ⟨slots, hslots, hslot⟩, htest⟩ :=
    Environment.exists_filterAtom h hatoms hatom
  obtain ⟨predicate, -, rfl⟩ := Option.map_eq_some_iff.1 htest
  exact (testedAs_of_filterTarget hc hr hslots slot hslot).isPlain hc hr

theorem isPlain_of_searchAtoms (hc : catalog.WellFormed) (hr : record ∈ catalog.recordTypes)
    {term : String} {atoms : List Atom}
    (h : (catalog.environment config).searchAtoms record term = .ok atoms) :
    ∀ atom ∈ atoms, Text.IsPlain atom.column := by
  intro atom hatom
  obtain ⟨⟨columns, hcolumns, hcolumn⟩, -⟩ := Environment.searchAtom_of_mem h hatom
  exact (testedAs_of_searchColumns hc hr hcolumns atom.column hcolumn).isPlain hc hr

/-- The condition for given keys is made of the atom for them. -/
theorem madeOf_bulkCondition (hc : catalog.WellFormed) (hr : record ∈ catalog.recordTypes)
    (ids : List String) : (Environment.bulkCondition record ids).MadeOf (keyTest record ids) := by
  cases ids with
  | nil => exact Condition.madeOf_always
  | cons id rest =>
    have hplain := Text.isPlain_qualified (hc.isIdentifier_tableName hr)
      (hc.isIdentifier_primaryKey hr)
    exact Condition.madeOf_condition hplain

end Catalog

/-! ### Conditions are bound -/

/-- **Every placeholder of a condition has its value, and the value is of the type of the column that is
tested**, for filters, searches and lists. -/
theorem conditions_are_bound {catalog : Catalog} (h : catalog.Reachable) (config : Config)
    {record : RecordType} (hr : record ∈ catalog.recordTypes) :
    (∀ filters now c, (catalog.environment config).filterCondition record filters now = .ok c →
      ∃ atoms, catalog.FilterTests config record filters now atoms ∧ c.Bound atoms) ∧
    (∀ term c, (catalog.environment config).searchCondition record term = .ok c →
      ∃ atoms, catalog.SearchTests config record atoms ∧ c.Bound atoms) ∧
    ∀ request now query, (catalog.environment config).listQuery record request now = .ok query →
      ∃ atoms, catalog.ListTests config record request now atoms ∧ query.condition.Bound atoms := by
  have hc := h.wellFormed
  refine ⟨fun filters now c hok => ?_, fun term c hok => ?_, fun request now query hok => ?_⟩
  · obtain ⟨clauses, hclauses, rfl⟩ := Fallible.map_eq_ok_iff.1 hok
    have hplain := Catalog.isPlain_of_filterClauses hc hr hclauses
    exact ⟨_, Catalog.filterTests_of_filterClauses hc hr hclauses,
      (Condition.madeOf_ofClauses hplain).bound⟩
  · obtain ⟨atoms, hatoms, rfl⟩ := Fallible.map_eq_ok_iff.1 hok
    have hplain := Catalog.isPlain_of_searchAtoms hc hr hatoms
    exact ⟨atoms, Catalog.searchTests_of_searchAtoms hc hr hatoms,
      (Condition.madeOf_ofAlternatives hplain).bound⟩
  · obtain ⟨search, filters, hsearch, hfilters, heq, -⟩ := Environment.listQuery_eq_ok hok
    obtain ⟨searched, hnone, hsearched, hmade⟩ : ∃ searched,
        (request.query = none → searched = []) ∧ catalog.SearchTests config record searched ∧
          search.MadeOf searched := by
      cases hterm : request.query with
      | none =>
        rw [hterm] at hsearch
        cases hsearch
        exact ⟨[], fun _ => rfl, by simp [Catalog.SearchTests], Condition.madeOf_always⟩
      | some term =>
        rw [hterm] at hsearch
        obtain ⟨atoms, hatoms, rfl⟩ := Fallible.map_eq_ok_iff.1 hsearch
        have hplain := Catalog.isPlain_of_searchAtoms hc hr hatoms
        exact ⟨atoms, by simp, Catalog.searchTests_of_searchAtoms hc hr hatoms,
          Condition.madeOf_ofAlternatives hplain⟩
    obtain ⟨clauses, hclauses, rfl⟩ := Fallible.map_eq_ok_iff.1 hfilters
    have hplain := Catalog.isPlain_of_filterClauses hc hr hclauses
    have hparts : List.Forall₂ (fun row part => Condition.MadeOf part row)
        [searched, clauses.flatten, Catalog.keyTest record request.bulkIds]
        [search.enclosed, (Condition.ofClauses clauses).enclosed,
          Environment.bulkCondition record request.bulkIds] :=
      .cons hmade.enclosed (.cons (Condition.madeOf_ofClauses hplain).enclosed
        (.cons (Catalog.madeOf_bulkCondition hc hr request.bulkIds) .nil))
    have hquery : query.condition.MadeOf
        (searched ++ clauses.flatten ++ Catalog.keyTest record request.bulkIds) := by
      have hjoin : query.condition.MadeOf ([searched, clauses.flatten,
          Catalog.keyTest record request.bulkIds].flatten) := by
        rw [heq]
        exact Condition.madeOf_join (by simp [Placeholder.quote]) hparts
      simpa using hjoin
    exact ⟨_, ⟨searched, clauses.flatten, rfl, hnone, hsearched,
      Catalog.filterTests_of_filterClauses hc hr hclauses⟩, hquery.bound⟩

namespace League

/-- Teams of the east or of division 7, founded on a given day, two of them by their keys. -/
def request : ListRequest where
  query := some "east"
  filters := ⟨[⟨"division", [("0", ⟨none, "7"⟩)]⟩, ⟨"founded", [("0", ⟨some "is", "1960-01-02"⟩)]⟩]⟩
  bulkIds := ["3", "5"]
  sort := none
  sortReverse := false
  includes := []

end League

/-- Seven values stand for seven placeholders in the search, the filters and the keys of a list. -/
theorem conditions_are_bound_league :
    League.catalog.Reachable ∧ League.team.recordType ∈ League.catalog.recordTypes ∧
    ∃ query, (League.catalog.environment .default).listQuery League.team.recordType League.request
        ⟨0, 0⟩ = .ok query ∧
      query.condition.bindings = [.text "%east%", .text "%east%", .text "%7%", .integer 7,
        .timestamp ⟨-315532800, 0⟩, .timestamp ⟨-315446401, 999999000⟩, .list ["3", "5"]] ∧
      ∃ atoms, League.catalog.ListTests .default League.team.recordType League.request ⟨0, 0⟩ atoms ∧
        query.condition.Bound atoms := by
  have hr : League.team.recordType ∈ League.catalog.recordTypes := by decide
  obtain ⟨-, -, hlist⟩ := conditions_are_bound League.reachable_catalog .default hr
  have hok : (League.catalog.environment .default).listQuery League.team.recordType League.request
      ⟨0, 0⟩ = .ok ⟨"teams", ⟨"((teams.name LIKE ?) OR (divisions.name LIKE ?)) AND " ++
        "(((divisions.name LIKE ?) OR (teams.division_id = ?)) AND " ++
        "((teams.founded BETWEEN ? AND ?))) AND (teams.id IN (?))",
        [.text "%east%", .text "%east%", .text "%7%", .integer 7, .timestamp ⟨-315532800, 0⟩,
          .timestamp ⟨-315446401, 999999000⟩, .list ["3", "5"]]⟩, ⟨"teams.id", .descending⟩, []⟩ := by
    decide +kernel
  exact ⟨League.reachable_catalog, hr, _, hok, rfl, hlist _ _ _ hok⟩

end AdminQuery
