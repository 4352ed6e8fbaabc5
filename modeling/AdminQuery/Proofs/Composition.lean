import AdminQuery.Proofs.ColumnOrigins

/-!
# How conditions are put together

Conditions are atoms, joined by `AND` and `OR` and put in parentheses.  A property of atoms that
survives these two steps is a property of every condition.

* `Condition.Composes`: the property survives parentheses and separators
* `isAlways_join_iff`, `bindings_join`: when a join is empty, and what it binds
* `join_append`: **joining is associative**, whichever parts are empty
* `Condition.TrivialOr`: the condition is empty, or has the property
* `Composes.any`, `Composes.all`, `Composes.enclosed`: **the induction over one join**
* `Environment.FilterAtom`: the atoms of a filter map
* `Composes.filterCondition`, `Composes.searchCondition`, `Composes.listQuery`: the property holds of
  filters, of searches and of lists when it holds of their atoms
-/

namespace AdminQuery

/-- The values that atoms bind, in order. -/
def boundValues (atoms : List Atom) : List Binding :=
  atoms.flatMap fun atom => atom.condition.bindings

theorem boundValues_append (front back : List Atom) :
    boundValues (front ++ back) = boundValues front ++ boundValues back := by
  simp [boundValues]

theorem boundValues_flatMap {α : Type} (xs : List α) (f : α → List Atom) :
    boundValues (xs.flatMap f) = xs.flatMap fun x => boundValues (f x) := by
  rw [boundValues, List.flatMap_assoc]
  rfl

theorem boundValues_flatten (rows : List (List Atom)) :
    boundValues rows.flatten = rows.flatMap boundValues := by
  rw [List.flatten_eq_flatMap, boundValues_flatMap]
  rfl

namespace Condition

/-- A property that conditions keep in parentheses and between separators. -/
structure Composes (P : Condition → Prop) : Prop where
  parenthesis : ∀ {c : Condition}, P c → P ⟨"(" ++ c.sql ++ ")", c.bindings⟩
  or : ∀ {c d : Condition}, P c → P d → P ⟨c.sql ++ " OR " ++ d.sql, c.bindings ++ d.bindings⟩
  and : ∀ {c d : Condition}, P c → P d → P ⟨c.sql ++ " AND " ++ d.sql, c.bindings ++ d.bindings⟩

/-- The condition that always holds, or one with the property. -/
def TrivialOr (P : Condition → Prop) (c : Condition) : Prop :=
  c = always ∨ P c

/-- The parts of a join that are not empty. -/
def present (parts : List Condition) : List Condition :=
  parts.filter fun part => !part.isAlways

theorem join_eq_present (separator : String) (parts : List Condition) :
    join separator parts =
      ⟨separator.intercalate ((present parts).map sql), (present parts).flatMap bindings⟩ := rfl

theorem not_isAlways_of_mem_present {parts : List Condition} {c : Condition}
    (h : c ∈ present parts) : c.isAlways = false := by
  simpa using (List.mem_filter.1 h).2

theorem join_present (separator : String) (parts : List Condition) :
    join separator (present parts) = join separator parts := by
  have hpresent : present (present parts) = present parts := by
    rw [present, List.filter_eq_self]
    intro c hc
    simp [not_isAlways_of_mem_present hc]
  rw [join_eq_present, hpresent, ← join_eq_present]

/-- A part that is not empty, in front of others of which one is not empty. -/
theorem join_cons_of_present {separator : String} {c : Condition} {parts : List Condition}
    (hc : c.isAlways = false) (hp : present parts ≠ []) :
    join separator (c :: parts) =
      ⟨c.sql ++ separator ++ (join separator parts).sql,
        c.bindings ++ (join separator parts).bindings⟩ := by
  have hcons : present (c :: parts) = c :: present parts := by simp [present, hc]
  rw [join_eq_present, join_eq_present, hcons]
  cases hrest : present parts with
  | nil => exact absurd hrest hp
  | cons d rest => simp [String.intercalate_cons_cons]

theorem isAlways_join_of_present {separator : String} {parts : List Condition}
    (hp : present parts ≠ []) : (join separator parts).isAlways = false := by
  rw [join_eq_present]
  cases hparts : present parts with
  | nil => exact absurd hparts hp
  | cons c rest =>
    have hc : c ∈ present parts := by simp [hparts]
    have hne := not_isAlways_of_mem_present hc
    rw [isAlways, ← Bool.not_eq_true, String.isEmpty_iff] at hne ⊢
    cases rest <;> simp [String.intercalate_cons_cons, hne]

theorem present_append (front back : List Condition) :
    present (front ++ back) = present front ++ present back :=
  List.filter_append front back

theorem present_eq_nil_iff {parts : List Condition} :
    present parts = [] ↔ ∀ c ∈ parts, c.isAlways = true := by
  simp [present, List.filter_eq_nil_iff]

theorem join_of_present_eq_nil {parts : List Condition} (h : present parts = []) (separator : String) :
    join separator parts = always := by
  rw [join_eq_present, h]
  simp [always]

/-- **A join is empty exactly when all its parts are.** -/
theorem isAlways_join_iff {separator : String} {parts : List Condition} :
    (join separator parts).isAlways = true ↔ ∀ c ∈ parts, c.isAlways = true := by
  rw [← present_eq_nil_iff]
  by_cases hparts : present parts = []
  · simp [join_of_present_eq_nil hparts, hparts]
  · simp [isAlways_join_of_present hparts, hparts]

/-- An empty join binds nothing. -/
theorem join_eq_always_of_isAlways {separator : String} {parts : List Condition}
    (h : (join separator parts).isAlways = true) : join separator parts = always :=
  join_of_present_eq_nil (present_eq_nil_iff.2 (isAlways_join_iff.1 h)) separator

theorem bindings_join_of_isAlways {separator : String} {parts : List Condition}
    (h : (join separator parts).isAlways = true) : (join separator parts).bindings = [] := by
  rw [join_eq_always_of_isAlways h]
  rfl

theorem join_singleton {separator : String} {c : Condition} (h : c.isAlways = true → c = always) :
    join separator [c] = c := by
  cases hc : c.isAlways with
  | true => rw [join_cons_of_isAlways hc, join_nil, h hc]
  | false =>
    have hpresent : present [c] = [c] := by simp [present, hc]
    rw [join_eq_present, hpresent]
    simp

/-- **Joining is associative**: parts can be joined in two halves first, whichever of them are empty. -/
theorem join_append (separator : String) (front back : List Condition) :
    join separator (front ++ back) = join separator [join separator front, join separator back] := by
  have hsingleton : join separator [join separator back] = join separator back :=
    join_singleton join_eq_always_of_isAlways
  by_cases hfront : present front = []
  · have happend : join separator (front ++ back) = join separator back := by
      rw [join_eq_present, present_append, hfront, List.nil_append, ← join_eq_present]
    rw [happend, join_of_present_eq_nil hfront, join_cons_of_isAlways isAlways_always, hsingleton]
  · have hleft : (join separator front).isAlways = false := isAlways_join_of_present hfront
    by_cases hback : present back = []
    · have happend : join separator (front ++ back) = join separator front := by
        rw [join_eq_present, present_append, hback, List.append_nil, ← join_eq_present]
      have hpresent : present [join separator front, always] = [join separator front] := by
        simp [present, hleft]
      rw [happend, join_of_present_eq_nil hback, join_eq_present separator [_, _], hpresent]
      simp
    · have hright : present [join separator back] ≠ [] := by
        rw [Ne, present_eq_nil_iff]
        simp [isAlways_join_of_present hback]
      have hne (parts : List Condition) (h : present parts ≠ []) : (present parts).map sql ≠ [] := by
        simpa using h
      rw [join_cons_of_present hleft hright, hsingleton, join_eq_present, present_append,
        List.map_append, String.intercalate_append_of_ne_nil (hne front hfront) (hne back hback),
        List.flatMap_append]
      rfl

/-- A join does not notice an empty part. -/
theorem join_append_cons_of_isAlways {c : Condition} (h : c.isAlways = true) (separator : String)
    (front back : List Condition) :
    join separator (front ++ c :: back) = join separator (front ++ back) := by
  rw [join_append, join_cons_of_isAlways h, ← join_append]

/-- A join is its first part, then perhaps a separator, then the join of the others. -/
theorem exists_join_cons (separator : String) (c : Condition) (parts : List Condition)
    (hc : c.isAlways = true → c.bindings = []) :
    ∃ between, (between = "" ∨ between = separator) ∧ join separator (c :: parts) =
      ⟨c.sql ++ between ++ (join separator parts).sql,
        c.bindings ++ (join separator parts).bindings⟩ := by
  cases hempty : c.isAlways with
  | true =>
    have hsql : c.sql = "" := by simpa [isAlways] using hempty
    exact ⟨"", .inl rfl, by simp [join_cons_of_isAlways hempty, hsql, hc hempty]⟩
  | false =>
    by_cases hparts : present parts = []
    · have hjoin := join_of_present_eq_nil hparts separator
      have hcons : present (c :: parts) = [c] := by
        simpa [present, hempty] using hparts
      exact ⟨"", .inl rfl, by simp [join_eq_present separator (c :: parts), hcons, hjoin, always]⟩
    · exact ⟨separator, .inr rfl, join_cons_of_present hempty hparts⟩

/-- **A join binds what its parts bind**, when empty parts bind nothing. -/
theorem bindings_join {separator : String} {parts : List Condition}
    (h : ∀ c ∈ parts, c.isAlways = true → c.bindings = []) :
    (join separator parts).bindings = parts.flatMap bindings := by
  induction parts with
  | nil => rfl
  | cons c rest ih =>
    obtain ⟨between, -, hjoin⟩ := exists_join_cons separator c rest (h c (by simp))
    rw [hjoin, List.flatMap_cons, ih fun d hd => h d (by simp [hd])]

/-- A property that survives a separator survives a join, by induction over the parts. -/
theorem trivialOr_join {P : Condition → Prop} {separator : String}
    (hsep : ∀ {c d : Condition}, P c → P d →
      P ⟨c.sql ++ separator ++ d.sql, c.bindings ++ d.bindings⟩)
    {parts : List Condition} (h : ∀ c ∈ parts, TrivialOr P c) : TrivialOr P (join separator parts) := by
  have hpresent : ∀ c ∈ present parts, P c := by
    intro c hc
    rcases h c (List.mem_filter.1 hc).1 with rfl | hc'
    · exact absurd (not_isAlways_of_mem_present hc) (by decide)
    · exact hc'
  rw [join_eq_present]
  generalize present parts = kept at hpresent
  cases kept with
  | nil => exact .inl (by simp [always])
  | cons c rest =>
    refine .inr ?_
    induction rest generalizing c with
    | nil => simpa using hpresent c (by simp)
    | cons d rest ih =>
      have htail := ih d fun e he => hpresent e (by simp [he])
      have := hsep (hpresent c (by simp)) htail
      simpa [String.intercalate_cons_cons] using this

namespace Composes

variable {P : Condition → Prop}

theorem any (h : Composes P) {parts : List Condition} (hp : ∀ c ∈ parts, TrivialOr P c) :
    TrivialOr P (.any parts) :=
  trivialOr_join h.or hp

theorem all (h : Composes P) {parts : List Condition} (hp : ∀ c ∈ parts, TrivialOr P c) :
    TrivialOr P (.all parts) :=
  trivialOr_join h.and hp

theorem enclosed (h : Composes P) {c : Condition} (hc : TrivialOr P c) : TrivialOr P c.enclosed := by
  rw [Condition.enclosed]
  split
  · exact hc
  · rename_i hne
    rcases hc with rfl | hc
    · exact absurd isAlways_always hne
    · exact .inr (h.parenthesis hc)

/-- The alternatives of a key, or of a search. -/
theorem ofAlternatives (h : Composes P) {atoms : List Atom} (ha : ∀ atom ∈ atoms, P atom.condition) :
    TrivialOr P (.ofAlternatives atoms) := by
  refine h.any fun c hc => ?_
  obtain ⟨atom, hatom, rfl⟩ := List.mem_map.1 hc
  exact .inr (ha atom hatom)

/-- The clauses of a filter map. -/
theorem ofClauses (h : Composes P) {clauses : List (List Atom)}
    (ha : ∀ atoms ∈ clauses, ∀ atom ∈ atoms, P atom.condition) : TrivialOr P (.ofClauses clauses) := by
  refine h.all fun c hc => ?_
  obtain ⟨atoms, hatoms, rfl⟩ := List.mem_map.1 hc
  exact h.enclosed (h.ofAlternatives (ha atoms hatoms))

end Composes

/-! ### Atoms and clauses -/

theorem not_isAlways_condition (atom : Atom) : atom.condition.isAlways = false := by
  rw [isAlways, ← Bool.not_eq_true, String.isEmpty_iff]
  simp [Atom.condition]

theorem present_map_condition (atoms : List Atom) :
    present (atoms.map Atom.condition) = atoms.map Atom.condition := by
  rw [present, List.filter_eq_self]
  exact List.forall_mem_map.2 fun atom _ => by simp [not_isAlways_condition]

/-- Alternatives are empty only when there are none. -/
theorem isAlways_ofAlternatives (atoms : List Atom) :
    (ofAlternatives atoms).isAlways = atoms.isEmpty := by
  cases atoms with
  | nil => rfl
  | cons atom rest =>
    have hpresent : present ((atom :: rest).map Atom.condition) ≠ [] := by
      rw [present_map_condition]
      simp
    exact isAlways_join_of_present hpresent

/-- Alternatives bind what their atoms bind. -/
theorem bindings_ofAlternatives (atoms : List Atom) :
    (ofAlternatives atoms).bindings = boundValues atoms := by
  rw [ofAlternatives, any, join_eq_present, present_map_condition, List.flatMap_map, boundValues]

/-- The clauses that are not empty are those with atoms. -/
theorem present_map_enclosed (clauses : List (List Atom)) :
    present (clauses.map fun atoms => (ofAlternatives atoms).enclosed) =
      (clauses.filter fun atoms => !atoms.isEmpty).map fun atoms => (ofAlternatives atoms).enclosed := by
  rw [present, List.filter_map]
  refine congrArg _ (List.filter_congr fun atoms _ => ?_)
  rw [Function.comp_apply, isAlways_enclosed, isAlways_ofAlternatives]

end Condition

/-! ### The atoms of filters, searches and lists -/

namespace Environment

/-- `atom` is the test that `entry`, submitted for one of the keys, puts on a column of that key. -/
def FilterAtom (env : Environment) (record : RecordType) (filters : FilterMap) (now : Instant)
    (entry : FilterEntry) (slot : Slot) (atom : Atom) : Prop :=
  ∃ filter ∈ filters.fields, (∃ group ∈ filter.groups, group.2 = entry) ∧
    (∃ slots, env.filterTarget record filter.field = .ok slots ∧ slot ∈ slots) ∧
    entry.atom? env.config.patternStyle slot.column slot.type now = some atom

/-- A key that can be resolved has the atoms of its groups, one group after the other. -/
theorem fieldAtoms_eq_ok {env : Environment} {record : RecordType} {filter : FieldGroups}
    {now : Instant} {atoms : List Atom} (h : env.fieldAtoms record filter now = .ok atoms) :
    ∃ slots, env.filterTarget record filter.field = .ok slots ∧
      atoms = filter.groups.flatMap fun group => env.groupAtoms slots group.2 now := by
  obtain ⟨slots, hslots, h⟩ := Fallible.bind_eq_ok_iff.1 h
  exact ⟨slots, hslots, (Except.ok.inj h).symm⟩

theorem fieldAtoms_of_filterTarget {env : Environment} {record : RecordType} {key : String}
    {slots : List Slot} (h : env.filterTarget record key = .ok slots)
    (groups : List (String × FilterEntry)) (now : Instant) :
    env.fieldAtoms record ⟨key, groups⟩ now =
      .ok (groups.flatMap fun group => env.groupAtoms slots group.2 now) := by
  rw [fieldAtoms, h]
  rfl

theorem exists_filterAtom {env : Environment} {record : RecordType} {filters : FilterMap}
    {now : Instant} {clauses : List (List Atom)}
    (h : env.filterClauses record filters now = .ok clauses) {atoms : List Atom}
    (hatoms : atoms ∈ clauses) {atom : Atom} (hatom : atom ∈ atoms) :
    ∃ entry slot, env.FilterAtom record filters now entry slot atom := by
  obtain ⟨filter, hfilter, hfield⟩ := Fallible.exists_of_mapM_eq_ok h hatoms
  obtain ⟨slots, hslots, rfl⟩ := fieldAtoms_eq_ok hfield
  obtain ⟨group, hgroup, hatom⟩ := List.mem_flatMap.1 hatom
  obtain ⟨slot, hslot, hatom⟩ := List.mem_filterMap.1 hatom
  exact ⟨group.2, slot, filter, hfilter, ⟨group, hgroup, rfl⟩, ⟨slots, hslots, hslot⟩, hatom⟩

/-- `atom` is the match of `term` against a column that searches look into. -/
def SearchAtom (env : Environment) (record : RecordType) (term : String) (atom : Atom) : Prop :=
  (∃ columns, env.searchColumns record = .ok columns ∧ atom.column ∈ columns) ∧
    env.searchAtom? term atom.column = some atom

theorem searchAtom_of_mem {env : Environment} {record : RecordType} {term : String}
    {atoms : List Atom} (h : env.searchAtoms record term = .ok atoms) {atom : Atom}
    (hatom : atom ∈ atoms) : env.SearchAtom record term atom := by
  rw [searchAtoms] at h
  split at h
  · cases h
    cases hatom
  · obtain ⟨columns, hcolumns, h⟩ := Fallible.bind_eq_ok_iff.1 h
    cases h
    obtain ⟨column, hcolumn, hmatch⟩ := List.mem_filterMap.1 hatom
    have hname : atom.column = column := by
      obtain ⟨predicate, -, rfl⟩ := Option.map_eq_some_iff.1 hmatch
      rfl
    exact ⟨⟨columns, hcolumns, hname ▸ hcolumn⟩, hname ▸ hmatch⟩

/-- The atom for given primary keys binds all of them. -/
theorem bulkAtom?_eq_some {record : RecordType} {ids : List String} {atom : Atom}
    (h : bulkAtom? record ids = some atom) :
    ids ≠ [] ∧ atom = ⟨record.qualified record.primaryKey, .oneOf ids⟩ := by
  rw [bulkAtom?] at h
  split at h
  · cases h
  · rename_i hids
    cases h
    exact ⟨fun hnil => hids (by rw [hnil]; rfl), rfl⟩

/-- What a list query is put together from. -/
theorem listQuery_eq_ok {env : Environment} {record : RecordType} {request : ListRequest}
    {now : Instant} {query : ListQuery} (h : env.listQuery record request now = .ok query) :
    ∃ search filters, env.optionalSearch record request.query = .ok search ∧
      env.filterCondition record request.filters now = .ok filters ∧
      query.condition =
        .all [search.enclosed, filters.enclosed, bulkCondition record request.bulkIds] ∧
      query.sort = env.listSort record request := by
  obtain ⟨includes, -, h⟩ := Fallible.bind_eq_ok_iff.1 h
  obtain ⟨search, hsearch, h⟩ := Fallible.bind_eq_ok_iff.1 h
  obtain ⟨filters, hfilters, h⟩ := Fallible.bind_eq_ok_iff.1 h
  cases h
  exact ⟨search, filters, hsearch, hfilters, rfl, rfl⟩

end Environment

namespace Condition.Composes

variable {P : Condition → Prop} {env : Environment} {record : RecordType}

theorem filterCondition (h : Composes P) {filters : FilterMap} {now : Instant} {c : Condition}
    (hc : env.filterCondition record filters now = .ok c)
    (ha : ∀ entry slot atom, env.FilterAtom record filters now entry slot atom → P atom.condition) :
    TrivialOr P c := by
  obtain ⟨clauses, hclauses, rfl⟩ := Fallible.map_eq_ok_iff.1 hc
  refine h.ofClauses fun atoms hatoms atom hatom => ?_
  obtain ⟨entry, slot, hfilter⟩ := Environment.exists_filterAtom hclauses hatoms hatom
  exact ha entry slot atom hfilter

theorem searchCondition (h : Composes P) {term : String} {c : Condition}
    (hc : env.searchCondition record term = .ok c)
    (ha : ∀ atom, env.SearchAtom record term atom → P atom.condition) : TrivialOr P c := by
  obtain ⟨atoms, hatoms, rfl⟩ := Fallible.map_eq_ok_iff.1 hc
  exact h.ofAlternatives fun atom hatom => ha atom (Environment.searchAtom_of_mem hatoms hatom)

/-- The condition of a list is put together from a search, from filters and from the given keys. -/
theorem listQuery (h : Composes P) {request : ListRequest} {now : Instant} {query : ListQuery}
    (hq : env.listQuery record request now = .ok query)
    (hsearch : ∀ term atom, request.query = some term → env.SearchAtom record term atom →
      P atom.condition)
    (hfilter : ∀ entry slot atom, env.FilterAtom record request.filters now entry slot atom →
      P atom.condition)
    (hbulk : ∀ atom, Environment.bulkAtom? record request.bulkIds = some atom → P atom.condition) :
    TrivialOr P query.condition := by
  obtain ⟨search, filters, hs, hf, heq, -⟩ := Environment.listQuery_eq_ok hq
  rw [heq]
  refine h.all fun c hc => ?_
  simp only [List.mem_cons, List.not_mem_nil, or_false] at hc
  rcases hc with rfl | rfl | rfl
  · refine h.enclosed ?_
    cases hterm : request.query with
    | some term =>
      rw [hterm] at hs
      exact h.searchCondition hs fun atom => hsearch term atom hterm
    | none =>
      rw [hterm] at hs
      cases hs
      exact .inl rfl
  · exact h.enclosed (h.filterCondition hf hfilter)
  · rw [Environment.bulkCondition]
    cases hb : Environment.bulkAtom? record request.bulkIds with
    | none => exact .inl rfl
    | some atom => exact .inr (hbulk atom hb)

end Condition.Composes

end AdminQuery
