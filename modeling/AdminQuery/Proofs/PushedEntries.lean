import AdminQuery.Proofs.CatalogRuns
import AdminQuery.Proofs.Lists

/-!
# Pushed entries

Entries are pushed one after the other, those of one key between those of others.  The filter map that they
lead to is the list of pushes, grouped by key: a key stands where it was pushed first, and nothing that was
pushed is lost or overwritten, also where a group is named twice.

* `FilterMap.Pushed`, `FilterMap.pushAll`: an entry with its key and its group, and many of them pushed
* `FilterMap.keys`, `FilterMap.entriesOf`: the keys of a filter map, and the entries under a key
* `FilterMap.pushGroup_eq_upsert`: a push writes the entries of its key anew, with one more at the end
* `FilterMap.keys_push`, `FilterMap.entriesOf_push`: **what one push does** to the keys and to the entries
* `FilterMap.keys_pushAll`, `FilterMap.entriesOf_pushAll`: **what a run of pushes leads to**
* `pushes_are_grouped_by_key`: **a filter map is its pushes grouped by key**, and nothing else about them
  matters
-/

namespace AdminQuery

namespace FilterMap

/-- An entry with the key and the group that it is pushed under. -/
structure Pushed where
  field : String
  group : String
  entry : FilterEntry
  deriving DecidableEq, Repr

/-- Entries pushed one after the other. -/
def pushAll (filters : FilterMap) (pushes : List Pushed) : FilterMap :=
  pushes.foldl (fun filters pushed => filters.push pushed.field pushed.group pushed.entry) filters

/-- The keys, in order. -/
def keys (filters : FilterMap) : List String :=
  filters.fields.map FieldGroups.field

/-- The entries under a key; a key that is not there has none. -/
def entriesOf (filters : FilterMap) (name : String) : List (String × FilterEntry) :=
  ((Keyed.get? FieldGroups.field filters.fields name).map FieldGroups.groups).getD []

/-- What was pushed under a key, in order. -/
def pushedUnder (name : String) (pushes : List Pushed) : List (String × FilterEntry) :=
  (pushes.filter fun pushed => pushed.field = name).map fun pushed => (pushed.group, pushed.entry)

/-- The keys in the order in which they were pushed first. -/
def firstPushed (pushes : List Pushed) : List String :=
  (pushes.map Pushed.field).eraseDups

/-! ### One push -/

/-- A push writes the entries of its key anew, with one more at the end. -/
theorem pushGroup_eq_upsert (name : String) (group : String × FilterEntry) (fields : List FieldGroups) :
    pushGroup name group fields =
      Keyed.upsert FieldGroups.field ⟨name, entriesOf ⟨fields⟩ name ++ [group]⟩ fields := by
  induction fields with
  | nil => rfl
  | cons held rest ih =>
    by_cases h : held.field = name
    · subst h
      simp [pushGroup, Keyed.upsert, entriesOf, Keyed.get?]
    · have hentries : entriesOf ⟨held :: rest⟩ name = entriesOf ⟨rest⟩ name := by
        simp [entriesOf, Keyed.get?, h]
      rw [pushGroup, if_neg h, ih, Keyed.upsert, if_neg h, hentries]

section Push

variable (filters : FilterMap) (name group : String) (entry : FilterEntry)

/-- **A push leaves the keys as they are, or adds its own at the end.** -/
theorem keys_push : (filters.push name group entry).keys =
    if name ∈ filters.keys then filters.keys else filters.keys ++ [name] := by
  rw [keys, push, pushGroup_eq_upsert, Keyed.map_key_upsert]
  rfl

/-- **A push adds its entry to those of its key** and leaves the others alone. -/
theorem entriesOf_push (other : String) : (filters.push name group entry).entriesOf other =
    filters.entriesOf other ++ if name = other then [(group, entry)] else [] := by
  rw [entriesOf, push, pushGroup_eq_upsert]
  by_cases h : name = other
  · subst h
    rw [Keyed.get?_upsert_self FieldGroups.field ⟨name, _⟩, if_pos rfl]
    rfl
  · rw [Keyed.get?_upsert_of_ne h, if_neg h, List.append_nil]
    rfl

end Push

/-! ### Runs of pushes -/

theorem pushAll_concat (filters : FilterMap) (pushes : List Pushed) (pushed : Pushed) :
    filters.pushAll (pushes ++ [pushed]) =
      (filters.pushAll pushes).push pushed.field pushed.group pushed.entry := by
  rw [pushAll, List.foldl_append]
  rfl

/-- **The keys are those that were pushed, in the order of their first push.** -/
theorem keys_pushAll (pushes : List Pushed) : (empty.pushAll pushes).keys = firstPushed pushes := by
  induction pushes using List.reverseRecOn with
  | nil => rfl
  | append_singleton pushes pushed ih =>
    rw [pushAll_concat, keys_push, ih, firstPushed, firstPushed, List.map_append, List.map_singleton,
      eraseDups_concat]
    simp only [List.mem_eraseDups]

/-- **Under a key stands what was pushed under it, in order.** -/
theorem entriesOf_pushAll (pushes : List Pushed) (name : String) :
    (empty.pushAll pushes).entriesOf name = pushedUnder name pushes := by
  induction pushes using List.reverseRecOn with
  | nil => rfl
  | append_singleton pushes pushed ih =>
    rw [pushAll_concat, entriesOf_push, ih, pushedUnder, pushedUnder, List.filter_append, List.map_append]
    by_cases h : pushed.field = name <;> simp [h]

theorem mem_firstPushed_iff {pushes : List Pushed} {name : String} :
    name ∈ firstPushed pushes ↔ ∃ pushed ∈ pushes, pushed.field = name := by
  rw [firstPushed, List.mem_eraseDups, List.mem_map]

/-- Something was pushed under a key that was pushed. -/
theorem pushedUnder_ne_nil {pushes : List Pushed} {name : String} (h : name ∈ firstPushed pushes) :
    pushedUnder name pushes ≠ [] := by
  obtain ⟨pushed, hpushed, hname⟩ := mem_firstPushed_iff.1 h
  rw [pushedUnder, Ne, List.map_eq_nil_iff, List.filter_eq_nil_iff]
  intro hnone
  exact hnone pushed hpushed (decide_eq_true hname)

/-- Where keys are distinct, each of them stands there with its entries. -/
theorem fields_eq_map {filters : FilterMap} (h : filters.keys.Nodup) :
    filters.fields = filters.keys.map fun name => ⟨name, filters.entriesOf name⟩ := by
  have hself : ∀ field ∈ filters.fields, (⟨field.field, filters.entriesOf field.field⟩ : FieldGroups) = field := by
    intro field hfield
    have hsome : (Keyed.get? FieldGroups.field filters.fields field.field).isSome = true :=
      Keyed.isSome_get?_iff.2 (List.mem_map_of_mem hfield)
    obtain ⟨held, hheld⟩ := Option.isSome_iff_exists.1 hsome
    have heq : held = field :=
      List.inj_on_of_nodup_map h (List.mem_of_find?_eq_some hheld) hfield (Keyed.key_of_get? hheld)
    rw [entriesOf, hheld, heq]
    rfl
  rw [keys, List.map_map]
  exact (List.map_id _).symm.trans (List.map_congr_left fun field hfield => (hself field hfield).symm)

/-- **The filter map of a run of pushes is the pushes grouped by key.** -/
theorem fields_pushAll (pushes : List Pushed) : (empty.pushAll pushes).fields =
    (firstPushed pushes).map fun name => ⟨name, pushedUnder name pushes⟩ := by
  have hnodup : (empty.pushAll pushes).keys.Nodup := by
    rw [keys_pushAll]
    exact nodup_eraseDups _
  rw [fields_eq_map hnodup, keys_pushAll]
  simp only [entriesOf_pushAll]

theorem isEmpty_pushAll (pushes : List Pushed) : (empty.pushAll pushes).isEmpty = pushes.isEmpty := by
  rw [isEmpty, fields_pushAll, firstPushed]
  cases pushes with
  | nil => rfl
  | cons pushed rest => simp [List.eraseDups_cons]

/-- **Two runs of pushes lead to the same filter map exactly when they push the same keys first, in the same
order, and the same entries under each key, in the same order.** -/
theorem pushAll_eq_pushAll_iff {pushes others : List Pushed} :
    empty.pushAll pushes = empty.pushAll others ↔
      firstPushed pushes = firstPushed others ∧ ∀ name, pushedUnder name pushes = pushedUnder name others := by
  constructor
  · intro h
    refine ⟨?_, fun name => ?_⟩
    · rw [← keys_pushAll, ← keys_pushAll, h]
    · rw [← entriesOf_pushAll, ← entriesOf_pushAll, h]
  · rintro ⟨hkeys, hentries⟩
    have hfields : (empty.pushAll pushes).fields = (empty.pushAll others).fields := by
      simp only [fields_pushAll, hkeys, hentries]
    exact congrArg FilterMap.mk hfields

end FilterMap

open FilterMap in
/-- **A filter map is its pushes grouped by key.**  Its keys are those that were pushed, each once, in the order
of their first push.  Under each stands at least one entry, and all that was pushed under it, in order and with
the names of the groups, also where such a name was pushed before.  So the same first pushes in the same order,
and under each key the same entries in the same order, lead to the same filter map, and to the same condition. -/
theorem pushes_are_grouped_by_key :
    (∀ pushes : List Pushed,
      (empty.pushAll pushes).keys.Nodup ∧
      (∀ name, name ∈ (empty.pushAll pushes).keys ↔ ∃ pushed ∈ pushes, pushed.field = name) ∧
      ((empty.pushAll pushes).keys.Pairwise fun first second =>
        (pushes.map Pushed.field).idxOf first < (pushes.map Pushed.field).idxOf second) ∧
      (∀ filter ∈ (empty.pushAll pushes).fields,
        filter.groups ≠ [] ∧ filter.groups = pushedUnder filter.field pushes) ∧
      (empty.pushAll pushes).isEmpty = pushes.isEmpty) ∧
    (∀ pushes others : List Pushed, empty.pushAll pushes = empty.pushAll others ↔
      firstPushed pushes = firstPushed others ∧ ∀ name, pushedUnder name pushes = pushedUnder name others) ∧
    ∀ pushes others : List Pushed, firstPushed pushes = firstPushed others →
      (∀ name, pushedUnder name pushes = pushedUnder name others) →
      ∀ (env : Environment) (record : RecordType) (now : Instant),
        env.filterCondition record (empty.pushAll pushes) now =
          env.filterCondition record (empty.pushAll others) now := by
  refine ⟨fun pushes => ?_, fun _ _ => pushAll_eq_pushAll_iff, fun pushes others hkeys hentries env record now => ?_⟩
  · rw [keys_pushAll]
    refine ⟨nodup_eraseDups _, fun _ => mem_firstPushed_iff, pairwise_idxOf_eraseDups _, fun filter hfilter => ?_,
      isEmpty_pushAll pushes⟩
    rw [fields_pushAll] at hfilter
    obtain ⟨name, hname, rfl⟩ := List.mem_map.1 hfilter
    exact ⟨pushedUnder_ne_nil hname, rfl⟩
  · rw [pushAll_eq_pushAll_iff.2 ⟨hkeys, hentries⟩]

namespace League

open FilterMap

/-- Teams by two names, in groups of one name, with their division in between. -/
def mixedPushes : List Pushed :=
  [⟨"name", "0", ⟨some "is", "Jets"⟩⟩, ⟨"division", "0", ⟨none, "7"⟩⟩, ⟨"name", "0", ⟨none, "Rex"⟩⟩]

/-- The same, key by key. -/
def sortedPushes : List Pushed :=
  [⟨"name", "0", ⟨some "is", "Jets"⟩⟩, ⟨"name", "0", ⟨none, "Rex"⟩⟩, ⟨"division", "0", ⟨none, "7"⟩⟩]

end League

open League FilterMap in
/-- Teams are found by either name, and by their division, whichever was pushed between the two names. -/
theorem pushes_are_grouped_by_key_league :
    firstPushed mixedPushes = firstPushed sortedPushes ∧
    (∀ name, pushedUnder name mixedPushes = pushedUnder name sortedPushes) ∧
    (empty.pushAll mixedPushes).keys.Nodup ∧
    empty.pushAll mixedPushes = empty.pushAll sortedPushes ∧
    empty.pushAll mixedPushes = ⟨[⟨"name", [("0", ⟨some "is", "Jets"⟩), ("0", ⟨none, "Rex"⟩)]⟩,
      ⟨"division", [("0", ⟨none, "7"⟩)]⟩]⟩ ∧
    (catalog.environment .default).filterCondition team.recordType (empty.pushAll mixedPushes) ⟨0, 0⟩ =
      .ok ⟨"((teams.name LIKE ?) OR (teams.name LIKE ?)) AND " ++
        "((divisions.name LIKE ?) OR (teams.division_id = ?))",
        [.text "Jets", .text "%Rex%", .text "%7%", .integer 7]⟩ := by
  have hkeys : firstPushed mixedPushes = firstPushed sortedPushes := by decide
  have hentries (name : String) : pushedUnder name mixedPushes = pushedUnder name sortedPushes := by
    by_cases hname : "name" = name
    · subst hname
      rfl
    · simp [pushedUnder, mixedPushes, sortedPushes, hname, List.filter_cons]
  obtain ⟨hgrouped, hsame, hcondition⟩ := pushes_are_grouped_by_key
  refine ⟨hkeys, hentries, (hgrouped mixedPushes).1, (hsame _ _).2 ⟨hkeys, hentries⟩, by decide, ?_⟩
  rw [hcondition _ _ hkeys hentries]
  decide +kernel

end AdminQuery
