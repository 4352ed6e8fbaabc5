import AdminQuery.Proofs.Alignment
import AdminQuery.Proofs.Similarity

/-!
# Values do not shape the text

Two filter maps that differ only in their values, and in the names of their groups, have conditions with
one text, as long as the values are accepted alike.

* `Condition.Shows`: where an atom stands in a condition, and the values in front of its own
* `Environment.Binds`: the group that a placeholder belongs to
* `text_independent_of_values`: **only values change, and only those of groups that changed**
-/

namespace AdminQuery

/-! ### Where the values of a group stand -/

/-- The atom stands behind the atoms `front`: the text in front of it has a placeholder for each of their
values, and their values come in front of its own. -/
def Condition.Shows (c : Condition) (front : List Atom) (atom : Atom) : Prop :=
  ∃ before after back, c.sql.toList = before ++ atom.condition.sql.toList ++ after ∧
    c.bindings = boundValues front ++ atom.condition.bindings ++ back ∧
    Placeholder.Closed (boundValues front).length before

theorem Condition.MadeOf.shows {c : Condition} {front back : List Atom} {atom : Atom}
    (h : c.MadeOf (front ++ atom :: back)) : c.Shows front atom := by
  obtain ⟨before, after, hsql, hbefore⟩ := h.aligned.exists_before rfl
  refine ⟨before, after, boundValues back, hsql, ?_, hbefore⟩
  rw [h.bindings, boundValues_append, List.append_assoc]
  rfl

/-- The atoms in front of the `p`-th atom for the `m`-th group of a key that stands for `slots`, behind
the atoms `earlier` of earlier keys. -/
def Environment.atomsBefore (env : Environment) (now : Instant) (slots : List Slot)
    (groups : List (String × FilterEntry)) (entry : FilterEntry) (earlier : List Atom) (m p : Nat) :
    List Atom :=
  earlier ++ (groups.take m).flatMap (fun group => env.groupAtoms slots group.2 now) ++
    (env.groupAtoms slots entry now).take p

/-- The `i`-th placeholder of `c` stands in an atom for the `m`-th group of the `n`-th key of a filter
map, for which `entry` was submitted. -/
def Environment.Binds (env : Environment) (record : RecordType) (filters : FilterMap) (now : Instant)
    (c : Condition) (n m i : Nat) (entry : FilterEntry) : Prop :=
  ∃ clauses filter group slots p atom front,
    env.filterClauses record filters now = .ok clauses ∧
    filters.fields[n]? = some filter ∧ filter.groups[m]? = some (group, entry) ∧
    env.filterTarget record filter.field = .ok slots ∧
    (env.groupAtoms slots entry now)[p]? = some atom ∧
    front = env.atomsBefore now slots filter.groups entry (clauses.take n).flatten m p ∧
    c.Shows front atom ∧ atom.condition.IsClosed ∧ (boundValues front).length ≤ i ∧
    i < (boundValues front).length + atom.condition.bindings.length

/-- The atoms of a key are those in front of one of them, that one, and others. -/
theorem Environment.exists_flatMap_eq {env : Environment} {now : Instant} {slots : List Slot}
    {groups : List (String × FilterEntry)} {group : String × FilterEntry} {atom : Atom} {m p : Nat}
    (hgroup : groups[m]? = some group) (hatom : (env.groupAtoms slots group.2 now)[p]? = some atom) :
    ∃ back, groups.flatMap (fun group => env.groupAtoms slots group.2 now) =
      env.atomsBefore now slots groups group.2 [] m p ++ atom :: back := by
  refine ⟨(env.groupAtoms slots group.2 now).drop (p + 1) ++
    (groups.drop (m + 1)).flatMap fun group => env.groupAtoms slots group.2 now, ?_⟩
  conv_lhs => rw [eq_take_append_drop hgroup, List.flatMap_append, List.flatMap_cons,
    eq_take_append_drop hatom]
  simp [atomsBefore]

/-- The values of an atom belong to the group that it stands for. -/
theorem Environment.binds_of_getElem? {env : Environment} {record : RecordType} {filters : FilterMap}
    {now : Instant} {clauses : List (List Atom)} {c : Condition} {n m p i : Nat} {filter : FieldGroups}
    {group : String × FilterEntry} {slots : List Slot} {atom : Atom}
    (hclauses : env.filterClauses record filters now = .ok clauses) (hmade : c.MadeOf clauses.flatten)
    (hfilter : filters.fields[n]? = some filter) (hgroup : filter.groups[m]? = some group)
    (hslots : env.filterTarget record filter.field = .ok slots)
    (hclause : clauses[n]? = some (filter.groups.flatMap fun g => env.groupAtoms slots g.2 now))
    (hatom : (env.groupAtoms slots group.2 now)[p]? = some atom)
    (hle : (boundValues (env.atomsBefore now slots filter.groups group.2 (clauses.take n).flatten
      m p)).length ≤ i)
    (hlt : i < (boundValues (env.atomsBefore now slots filter.groups group.2 (clauses.take n).flatten
      m p)).length + atom.condition.bindings.length) :
    env.Binds record filters now c n m i group.2 := by
  obtain ⟨back, hrow⟩ := exists_flatMap_eq hgroup hatom
  have hflatten : clauses.flatten =
      env.atomsBefore now slots filter.groups group.2 (clauses.take n).flatten m p ++
        atom :: (back ++ (clauses.drop (n + 1)).flatten) := by
    conv_lhs => rw [eq_take_append_drop hclause, hrow]
    simp [atomsBefore]
  rw [hflatten] at hmade
  have hplain := hmade.aligned.isPlain atom (by simp)
  exact ⟨clauses, filter, group.1, slots, p, atom, _, hclauses, hfilter, hgroup, hslots, hatom, rfl,
    hmade.shows, Condition.isClosed_condition hplain, hle, hlt⟩

theorem Environment.length_atomsBefore (env : Environment) (now : Instant) (slots : List Slot)
    (groups : List (String × FilterEntry)) (entry : FilterEntry) (earlier : List (List Atom))
    (m p : Nat) :
    (boundValues (env.atomsBefore now slots groups entry earlier.flatten m p)).length =
      (earlier.flatMap boundValues).length +
        (((groups.take m).flatMap fun group => boundValues (env.groupAtoms slots group.2 now)).length +
          (((env.groupAtoms slots entry now).take p).flatMap fun atom =>
            atom.condition.bindings).length) := by
  rw [atomsBefore, boundValues_append, boundValues_append, boundValues_flatten, boundValues_flatMap,
    List.length_append, List.length_append, Nat.add_assoc]
  rfl

/-- **Two conditions that are alike differ only in values of groups with different entries.** -/
theorem Environment.exists_binds_of_ne {env : Environment} {record : RecordType}
    {filters others : FilterMap} {now : Instant} {clauses rest : List (List Atom)} {c d : Condition}
    (h : FilterMap.Similar env.config.patternStyle now filters others)
    (hclauses : env.filterClauses record filters now = .ok clauses)
    (hrest : env.filterClauses record others now = .ok rest)
    (halike : List.Forall₂ (List.Forall₂ Atom.Alike) clauses rest) (hc : c.MadeOf clauses.flatten)
    (hd : d.MadeOf rest.flatten) {i : Nat} (hne : c.bindings[i]? ≠ d.bindings[i]?) :
    ∃ n m e f, env.Binds record filters now c n m i e ∧ env.Binds record others now d n m i f ∧
      e.value ≠ f.value := by
  have hatom : ∀ a b : Atom, a.Alike b →
      a.condition.bindings.length = b.condition.bindings.length := by
    intro a b hab
    exact hab.condition.length
  have hatoms : ∀ atoms others : List Atom, List.Forall₂ Atom.Alike atoms others →
      (boundValues atoms).length = (boundValues others).length := by
    intro atoms others hrow
    rw [← Condition.bindings_ofAlternatives, ← Condition.bindings_ofAlternatives]
    exact (Condition.alike_ofAlternatives hrow).length
  rw [hc.bindings, hd.bindings, boundValues_flatten, boundValues_flatten] at hne
  -- The key that the value belongs to, in both filter maps.
  obtain ⟨n, atoms, atoms', j, hn, hn', -, hne, hi, hi'⟩ := exists_of_flatMap_ne hatoms halike hne
  obtain ⟨filter, hfilter, hfield⟩ := forall₂_getElem? (Fallible.mapM_eq_ok_iff.1 hclauses) hn
  obtain ⟨other, hother, hfield'⟩ := forall₂_getElem? (Fallible.mapM_eq_ok_iff.1 hrest) hn'
  obtain ⟨same, hsame, hsimilar⟩ := forall₂_getElem? h hother
  obtain rfl : filter = same := Option.some.inj (hfilter.symm.trans hsame)
  obtain ⟨slots, hslots, rfl⟩ := Environment.fieldAtoms_eq_ok hfield
  obtain ⟨slots', hslots', rfl⟩ := Environment.fieldAtoms_eq_ok hfield'
  obtain rfl : slots = slots' := by
    rw [hsimilar.field, hslots'] at hslots
    exact (Except.ok.inj hslots).symm
  -- The group of this key.
  have hgroups : ∀ g g' : String × FilterEntry,
      FilterEntry.Similar env.config.patternStyle now g.2 g'.2 →
      (boundValues (env.groupAtoms slots g.2 now)).length =
        (boundValues (env.groupAtoms slots g'.2 now)).length := by
    intro g g' hg
    exact hatoms _ _ (alike_groupAtoms env hg slots)
  rw [boundValues_flatMap, boundValues_flatMap] at hne
  obtain ⟨m, g, g', k, hm, hm', hg, hne, hj, hj'⟩ :=
    exists_of_flatMap_ne hgroups hsimilar.groups hne
  -- The atom for this group.
  obtain ⟨p, a, a', l, hp, hp', ha, hvalue, hk, hk'⟩ :=
    exists_of_flatMap_ne hatom (alike_groupAtoms env hg slots) hne
  have hl : l < a.condition.bindings.length := by
    by_contra hge
    rw [List.getElem?_eq_none (by omega), List.getElem?_eq_none (by rw [← hatom a a' ha]; omega)]
      at hvalue
    exact hvalue rfl
  have hl' : l < a'.condition.bindings.length := hatom a a' ha ▸ hl
  have hfront := env.length_atomsBefore now slots filter.groups g.2 (clauses.take n) m p
  have hfront' := env.length_atomsBefore now slots other.groups g'.2 (rest.take n) m p
  refine ⟨n, m, g.2, g'.2, ?_, ?_, ?_⟩
  · exact binds_of_getElem? hclauses hc hfilter hm hslots hn hp (by omega) (by omega)
  · exact binds_of_getElem? hrest hd hother hm' hslots' hn' hp' (by omega) (by omega)
  · intro heq
    exact hne (by rw [hg.eq_of_value heq])

/-! ### Values do not shape the text -/

/-- **Similar filter maps fail with one error, or have conditions with one text** whose values differ
only at placeholders of groups for which different values were submitted.  The names of groups are of
no account at all. -/
theorem text_independent_of_values {catalog : Catalog} (h : catalog.Reachable) (config : Config)
    {record : RecordType} (hr : record ∈ catalog.recordTypes) (now : Instant) :
    (∀ filters others, FilterMap.Similar config.patternStyle now filters others →
      Fallible.Agree (fun c d => c.sql = d.sql ∧ c.bindings.length = d.bindings.length ∧
          ∀ i : Nat, c.bindings[i]? ≠ d.bindings[i]? → ∃ n m e f,
            (catalog.environment config).Binds record filters now c n m i e ∧
            (catalog.environment config).Binds record others now d n m i f ∧ e.value ≠ f.value)
        ((catalog.environment config).filterCondition record filters now)
        ((catalog.environment config).filterCondition record others now)) ∧
    ∀ filters others : FilterMap,
      List.Forall₂ (fun p q => p.field = q.field ∧ p.groups.map Prod.snd = q.groups.map Prod.snd)
        filters.fields others.fields →
      (catalog.environment config).filterCondition record filters now =
        (catalog.environment config).filterCondition record others now := by
  constructor
  · intro filters others hsimilar
    have hplain : ∀ filters clauses,
        (catalog.environment config).filterClauses record filters now = .ok clauses →
          ∀ atoms ∈ clauses, ∀ atom ∈ atoms, Text.IsPlain atom.column :=
      fun _ _ => Catalog.isPlain_of_filterClauses h.wellFormed hr
    have hagree := agree_filterClauses (catalog.environment config) record hsimilar
    rw [Environment.filterCondition, Environment.filterCondition]
    generalize hclauses : (catalog.environment config).filterClauses record filters now = x,
      hrest : (catalog.environment config).filterClauses record others now = y at hagree
    cases hagree with
    | error e => exact .error e
    | @ok clauses rest halike =>
      have hsame := Condition.alike_ofClauses halike
      refine .ok ⟨hsame.sql, hsame.length, fun i hne => ?_⟩
      have hmade := Condition.madeOf_ofClauses (hplain _ _ hclauses)
      have hmade' := Condition.madeOf_ofClauses (hplain _ _ hrest)
      exact Environment.exists_binds_of_ne hsimilar hclauses hrest halike hmade hmade' hne
  · intro filters others hsame
    rw [Environment.filterCondition, Environment.filterCondition,
      Environment.filterClauses_congr _ record now hsame]

namespace League

/-- Other teams, of another division, under other group names. -/
def otherFilters : FilterMap :=
  ⟨[⟨"name", [("a", ⟨some "is", "Reds"⟩), ("b", ⟨none, "_null"⟩)]⟩, ⟨"division", [("c", ⟨none, "12"⟩)]⟩]⟩

end League

/-- Teams with other names have a condition with the same text. -/
theorem text_independent_of_values_league :
    League.catalog.Reachable ∧ League.team.recordType ∈ League.catalog.recordTypes ∧
    FilterMap.Similar Config.default.patternStyle ⟨0, 0⟩ League.filters League.otherFilters ∧
    ∃ c d, (League.catalog.environment .default).filterCondition League.team.recordType League.filters
        ⟨0, 0⟩ = .ok c ∧
      (League.catalog.environment .default).filterCondition League.team.recordType
        League.otherFilters ⟨0, 0⟩ = .ok d ∧
      c.bindings = [.text "Jets'; --", .text "%7%", .integer 7] ∧
      d.bindings = [.text "Reds", .text "%12%", .integer 12] ∧ c.sql = d.sql := by
  have hr : League.team.recordType ∈ League.catalog.recordTypes := by decide
  have hname : FilterEntry.Similar Config.default.patternStyle ⟨0, 0⟩ ⟨some "is", "Jets'; --"⟩
      ⟨some "is", "Reds"⟩ :=
    ⟨rfl, .inr ⟨by decide, fun type => by cases type <;> decide +kernel, by decide, by decide⟩⟩
  have hdivision : FilterEntry.Similar Config.default.patternStyle ⟨0, 0⟩ ⟨none, "7"⟩
      ⟨none, "12"⟩ :=
    ⟨rfl, .inr ⟨by decide, fun type => by cases type <;> decide +kernel, by decide, by decide⟩⟩
  have hsimilar : FilterMap.Similar Config.default.patternStyle ⟨0, 0⟩ League.filters
      League.otherFilters :=
    .cons ⟨rfl, .cons hname (.cons ⟨rfl, .inl rfl⟩ .nil)⟩ (.cons ⟨rfl, .cons hdivision .nil⟩ .nil)
  have hagree := (text_independent_of_values League.reachable_catalog .default hr ⟨0, 0⟩).1 _ _ hsimilar
  have hc : (League.catalog.environment .default).filterCondition League.team.recordType
      League.filters ⟨0, 0⟩ = .ok ⟨"((teams.name LIKE ?) OR (teams.name IS NULL)) AND " ++
        "((divisions.name LIKE ?) OR (teams.division_id = ?))",
        [.text "Jets'; --", .text "%7%", .integer 7]⟩ := by decide +kernel
  have hd : (League.catalog.environment .default).filterCondition League.team.recordType
      League.otherFilters ⟨0, 0⟩ = .ok ⟨"((teams.name LIKE ?) OR (teams.name IS NULL)) AND " ++
        "((divisions.name LIKE ?) OR (teams.division_id = ?))",
        [.text "Reds", .text "%12%", .integer 12]⟩ := by decide +kernel
  rw [hc, hd] at hagree
  cases hagree with
  | ok h => exact ⟨League.reachable_catalog, hr, hsimilar, _, _, hc, hd, rfl, rfl, h.1⟩

end AdminQuery
