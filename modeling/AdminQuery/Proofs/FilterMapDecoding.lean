import AdminQuery.Proofs.DocumentValues
import AdminQuery.Proofs.EntryReading
import AdminQuery.Proofs.PrintedDocuments

/-!
# Decoding filter maps

A filter map is built up entry by entry, and an entry joins the entries of its key wherever that key stands.
In a value every key stands once, so the map is what its members say, one after another.

* `FilterMap.ReadsField`, `FilterMap.FieldFails`: what a member of a filter map may be, and what it may not be
* `FilterMap.readField`, `FilterMap.pushField`: a member read for itself, and its entries pushed one by one
* `FilterMap.ofMembers_eq`: all members are read before entries are pushed
* `FilterMap.foldl_pushField`: entries pushed under distinct keys stay together and in order
* `FilterMap.ofText_eq_ofValue`: a text that is one value is the filter map of that value
* `filter_map_decoding_is_exact`: **the filter map of a text holds the entries of its members, or the error is
  that of the first member at fault**
-/

namespace AdminQuery

namespace FilterMap

open Json (Value)

/-! ### One member -/

/-- A member of a filter map is an object of entries, which come under the names of their groups. -/
def ReadsField (member : String × Value) (field : FieldGroups) : Prop :=
  ∃ groups, member.2 = .object groups ∧ field.field = member.1 ∧
    List.Forall₂ (fun group entry => entry.1 = group.1 ∧ FilterEntry.Reads group.2 entry.2) groups
      field.groups

/-- What a member of a filter map may not be, and the error it gives: that of the first entry at fault. -/
inductive FieldFails (member : String × Value) : FilterError → Prop where
  | notObject : (∀ groups, member.2 ≠ .object groups) →
    FieldFails member (.groupsNotObject member.1 member.2)
  | entry {before after : List (String × Value)} {group : String × Value} {e : FilterError} :
    member.2 = .object (before ++ group :: after) →
    (∀ earlier ∈ before, ∃ entry, FilterEntry.Reads earlier.2 entry) → FilterEntry.Fails group.2 e →
    FieldFails member e

/-- An entry under the name of its group. -/
def readGroup (group : String × Value) : Except FilterError (String × FilterEntry) :=
  (FilterEntry.ofValue group.2).map (Prod.mk group.1)

/-- A member of a filter map, read for itself. -/
def readField (member : String × Value) : Except FilterError FieldGroups :=
  match member.2 with
  | .object groups => (groups.mapM readGroup).map (FieldGroups.mk member.1)
  | value => .error (.groupsNotObject member.1 value)

theorem readGroup_eq_ok_iff {group : String × Value} {entry : String × FilterEntry} :
    readGroup group = .ok entry ↔ entry.1 = group.1 ∧ FilterEntry.Reads group.2 entry.2 := by
  rw [readGroup, Fallible.map_eq_ok_iff]
  simp only [FilterEntry.ofValue_eq_ok_iff]
  constructor
  · rintro ⟨read, hread, rfl⟩
    exact ⟨rfl, hread⟩
  · rintro ⟨hname, hread⟩
    exact ⟨entry.2, hread, by rw [← hname]⟩

theorem readGroup_eq_error_iff {group : String × Value} {e : FilterError} :
    readGroup group = .error e ↔ FilterEntry.Fails group.2 e := by
  rw [readGroup, Fallible.map_eq_error_iff, FilterEntry.ofValue_eq_error_iff]

theorem exists_readGroup_iff {group : String × Value} :
    (∃ entry, readGroup group = .ok entry) ↔ ∃ entry, FilterEntry.Reads group.2 entry := by
  simp only [readGroup_eq_ok_iff]
  constructor
  · rintro ⟨entry, -, hread⟩
    exact ⟨entry.2, hread⟩
  · rintro ⟨entry, hread⟩
    exact ⟨(group.1, entry), rfl, hread⟩

theorem readField_eq_ok_iff {member : String × Value} {field : FieldGroups} :
    readField member = .ok field ↔ ReadsField member field := by
  obtain ⟨name, value⟩ := member
  obtain ⟨key, entries⟩ := field
  cases value with
  | object groups =>
    simp only [readField, Fallible.map_eq_ok_iff, Fallible.mapM_eq_ok_iff, readGroup_eq_ok_iff,
      FieldGroups.mk.injEq]
    constructor
    · rintro ⟨read, hread, rfl, rfl⟩
      exact ⟨groups, rfl, rfl, hread⟩
    · rintro ⟨_, ⟨⟩, rfl, hread⟩
      exact ⟨entries, hread, rfl, rfl⟩
  | null | boolean | number | text | array =>
    constructor
    · rintro ⟨⟩
    · rintro ⟨_, ⟨⟩, -⟩

theorem readField_eq_error_iff {member : String × Value} {e : FilterError} :
    readField member = .error e ↔ FieldFails member e := by
  obtain ⟨name, value⟩ := member
  cases value with
  | object groups =>
    simp only [readField, Fallible.map_eq_error_iff, Fallible.mapM_eq_error_iff, exists_readGroup_iff,
      readGroup_eq_error_iff]
    constructor
    · rintro ⟨before, group, after, rfl, hbefore, hgroup⟩
      exact .entry rfl hbefore hgroup
    · rintro (hobject | ⟨hsplit, hbefore, hgroup⟩)
      · exact absurd rfl (hobject groups)
      · cases hsplit
        exact ⟨_, _, _, rfl, hbefore, hgroup⟩
  | null | boolean | number | text | array =>
    constructor
    · rintro ⟨⟩
      exact .notObject (by simp)
    · rintro (_ | ⟨⟨⟩, -, -⟩)
      rfl

/-! ### Pushing entries -/

/-- The entries of a key, pushed one by one. -/
def pushField (filters : FilterMap) (field : FieldGroups) : FilterMap :=
  field.groups.foldl (fun filters group => filters.push field.field group.1 group.2) filters

theorem addGroups_eq (name : String) (filters : FilterMap) (groups : List (String × Value)) :
    addGroups name filters groups =
      (groups.mapM readGroup).map fun entries => filters.pushField ⟨name, entries⟩ := by
  induction groups generalizing filters with
  | nil => rfl
  | cons group rest ih =>
    rw [addGroups, List.mapM_cons, readGroup]
    cases FilterEntry.ofValue group.2 with
    | error e => rfl
    | ok entry =>
      show addGroups name (filters.push name group.1 entry) rest = _
      rw [ih]
      cases rest.mapM readGroup <;> rfl

theorem addField_eq (filters : FilterMap) (member : String × Value) :
    addField filters member = (readField member).map filters.pushField := by
  obtain ⟨name, value⟩ := member
  cases value with
  | object groups =>
    show addGroups name filters groups =
      ((groups.mapM readGroup).map (FieldGroups.mk name)).map filters.pushField
    rw [addGroups_eq]
    cases groups.mapM readGroup <;> rfl
  | null | boolean | number | text | array => rfl

/-- **All members are read before entries are pushed.** -/
theorem ofMembers_eq (members : List (String × Value)) :
    ofMembers members = (members.mapM readField).map (List.foldl pushField empty) := by
  rw [ofMembers, ← Fallible.foldlM_map]
  congr 1
  funext filters member
  exact addField_eq filters member

section Push

variable {name : String} {fields : List FieldGroups}

/-- An entry of a new key starts it at the end. -/
theorem pushGroup_of_not_mem (h : name ∉ fields.map FieldGroups.field) (group : String × FilterEntry) :
    pushGroup name group fields = fields ++ [⟨name, [group]⟩] := by
  induction fields with
  | nil => rfl
  | cons held rest ih =>
    rw [List.map_cons, List.mem_cons, not_or] at h
    rw [pushGroup, if_neg (Ne.symm h.1), ih h.2]
    rfl

/-- An entry of the last key joins its entries. -/
theorem pushGroup_concat (h : name ∉ fields.map FieldGroups.field)
    (groups : List (String × FilterEntry)) (group : String × FilterEntry) :
    pushGroup name group (fields ++ [⟨name, groups⟩]) = fields ++ [⟨name, groups ++ [group]⟩] := by
  induction fields with
  | nil => simp [pushGroup]
  | cons held rest ih =>
    rw [List.map_cons, List.mem_cons, not_or] at h
    rw [List.cons_append, pushGroup, if_neg (Ne.symm h.1), ih h.2]
    rfl

/-- More entries of the last key join its entries, in order. -/
theorem pushField_concat (h : name ∉ fields.map FieldGroups.field)
    (groups entries : List (String × FilterEntry)) :
    pushField ⟨fields ++ [⟨name, groups⟩]⟩ ⟨name, entries⟩ =
      ⟨fields ++ [⟨name, groups ++ entries⟩]⟩ := by
  induction entries generalizing groups with
  | nil => rw [List.append_nil, pushField, List.foldl_nil]
  | cons entry rest ih =>
    have hpush : push ⟨fields ++ [⟨name, groups⟩]⟩ name entry.1 entry.2 =
        ⟨fields ++ [⟨name, groups ++ [entry]⟩]⟩ :=
      congrArg FilterMap.mk (pushGroup_concat h groups entry)
    have hrest := ih (groups ++ [entry])
    rw [pushField] at hrest ⊢
    rw [List.foldl_cons, hpush, hrest, List.append_assoc, List.singleton_append]

/-- The entries of a new key stand together at the end; a key without entries leaves no trace. -/
theorem pushField_of_not_mem {field : FieldGroups} (h : field.field ∉ fields.map FieldGroups.field) :
    pushField ⟨fields⟩ field = ⟨fields ++ [field].filter fun field => !field.groups.isEmpty⟩ := by
  obtain ⟨name, entries⟩ := field
  cases entries with
  | nil => simp [pushField]
  | cons entry rest =>
    have hpush : push ⟨fields⟩ name entry.1 entry.2 = ⟨fields ++ [⟨name, [entry]⟩]⟩ :=
      congrArg FilterMap.mk (pushGroup_of_not_mem h entry)
    have hrest := pushField_concat h [entry] rest
    rw [pushField] at hrest ⊢
    rw [List.foldl_cons, hpush, hrest]
    rfl

/-- **Entries pushed under distinct keys stay together and in order.**  By induction on the keys, from the
last one on: the key pushed last is not among the keys before it. -/
theorem foldl_pushField (h : (fields.map FieldGroups.field).Nodup) :
    fields.foldl pushField empty = ⟨fields.filter fun field => !field.groups.isEmpty⟩ := by
  induction fields using List.reverseRecOn with
  | nil => rfl
  | append_singleton fields field ih =>
    rw [List.map_append, List.map_singleton, List.nodup_append] at h
    obtain ⟨hfields, -, hnew⟩ := h
    have hfield : field.field ∉
        (fields.filter fun field => !field.groups.isEmpty).map FieldGroups.field := by
      intro hmem
      obtain ⟨held, hheld, hname⟩ := List.mem_map.1 hmem
      exact hnew _ (List.mem_map_of_mem (List.mem_of_mem_filter hheld)) _ (List.mem_singleton_self _) hname
    rw [List.foldl_append, ih hfields, List.foldl_cons, List.foldl_nil, pushField_of_not_mem hfield,
      List.filter_append]

end Push

/-! ### All members -/

variable {members : List (String × Value)}

theorem map_field_of_readsField {fields : List FieldGroups}
    (h : List.Forall₂ ReadsField members fields) :
    fields.map FieldGroups.field = members.map Prod.fst := by
  induction h with
  | nil => rfl
  | cons hfield _ ih =>
    obtain ⟨groups, -, hname, -⟩ := hfield
    rw [List.map_cons, List.map_cons, hname, ih]

theorem ofMembers_eq_ok_iff (hnodup : (members.map Prod.fst).Nodup) {filters : FilterMap} :
    ofMembers members = .ok filters ↔ ∃ fields, List.Forall₂ ReadsField members fields ∧
      filters.fields = fields.filter fun field => !field.groups.isEmpty := by
  rw [ofMembers_eq, Fallible.map_eq_ok_iff]
  simp only [Fallible.mapM_eq_ok_iff, readField_eq_ok_iff]
  refine exists_congr fun fields => and_congr_right fun hfields => ?_
  rw [foldl_pushField (by rwa [map_field_of_readsField hfields])]
  constructor
  · rintro rfl
    rfl
  · intro h
    rw [← h]

theorem ofMembers_eq_error_iff {e : FilterError} :
    ofMembers members = .error e ↔ ∃ before member after, members = before ++ member :: after ∧
      (∀ earlier ∈ before, ∃ field, ReadsField earlier field) ∧ FieldFails member e := by
  rw [ofMembers_eq, Fallible.map_eq_error_iff, Fallible.mapM_eq_error_iff]
  simp only [readField_eq_ok_iff, readField_eq_error_iff]

theorem exists_readsField_iff {member : String × Value} :
    (∃ field, ReadsField member field) ↔ ∃ groups, member.2 = .object groups ∧
      ∀ group ∈ groups, ∃ entry, FilterEntry.Reads group.2 entry := by
  simp only [← readField_eq_ok_iff, ← exists_readGroup_iff]
  obtain ⟨name, value⟩ := member
  cases value with
  | object groups =>
    simp only [readField, Fallible.map_eq_ok_iff, Value.object.injEq, exists_eq_left',
      ← Fallible.exists_mapM_iff]
    constructor
    · rintro ⟨_, entries, hentries, -⟩
      exact ⟨entries, hentries⟩
    · rintro ⟨entries, hentries⟩
      exact ⟨_, entries, hentries, rfl⟩
  | null | boolean | number | text | array =>
    constructor
    · rintro ⟨_, ⟨⟩⟩
    · rintro ⟨_, ⟨⟩, -⟩

theorem exists_ofMembers_iff :
    (∃ filters, ofMembers members = .ok filters) ↔ ∀ member ∈ members, ∃ groups,
      member.2 = .object groups ∧ ∀ group ∈ groups, ∃ entry, FilterEntry.Reads group.2 entry := by
  simp only [← exists_readsField_iff, ← readField_eq_ok_iff, ← Fallible.exists_mapM_iff, ofMembers_eq,
    Fallible.map_eq_ok_iff]
  constructor
  · rintro ⟨_, fields, hfields, -⟩
    exact ⟨fields, hfields⟩
  · rintro ⟨fields, hfields⟩
    exact ⟨_, fields, hfields, rfl⟩

/-- A text that is one value is the filter map of that value. -/
theorem ofText_eq_ofValue {text : String} {value : Value} (h : Value.ofText? text = some value) :
    ofText text = ofValue value := by
  obtain ⟨document, htext, hvalue⟩ := Option.bind_eq_some_iff.1 h
  have hfirst : Json.Document.first? text = some (document, []) := by
    rw [Json.Document.ofText?] at htext
    split at htext
    · rename_i hfirst
      cases htext
      exact hfirst
    · cases htext
  rw [ofText, hfirst]
  simp only [hvalue]
  show (ofValue value >>= fun filters => Except.ok filters) = _
  exact bind_pure _

theorem ofText_eq {text : String} {document : Json.Document}
    (htext : Json.Document.ofText? text = some document) (hdenotes : document.Denotes (.object members))
    (hnesting : document.nesting ≤ Json.maxNesting) : ofText text = ofMembers members := by
  have hvalue : document.toValue? = some (.object members) :=
    (document.valueWithin?_eq_some_iff _ _).2 ⟨hdenotes, hnesting⟩
  exact ofText_eq_ofValue (Option.bind_eq_some_iff.2 ⟨document, htext, hvalue⟩)

end FilterMap

/-- **The filter map of a text is decoded exactly.**  A text of an object, in which a repeated key stands
where it came first and holds what came last, is a filter map if and only if every member is an object of
entries; otherwise the error is that of the first member, and in it of the first entry, at fault.  The
filter map holds the members that have entries, in order, each with its own entries under their groups. -/
theorem filter_map_decoding_is_exact {text : String} {document : Json.Document}
    {members : List (String × Json.Value)} (htext : Json.Document.ofText? text = some document)
    (hdenotes : document.Denotes (.object members)) (hnesting : document.nesting ≤ Json.maxNesting) :
    ((∃ filters, FilterMap.ofText text = .ok filters) ↔ ∀ member ∈ members, ∃ groups,
      member.2 = .object groups ∧ ∀ group ∈ groups, ∃ entry, FilterEntry.Reads group.2 entry) ∧
    (∀ e, FilterMap.ofText text = .error e ↔ ∃ before member after,
      members = before ++ member :: after ∧
      (∀ earlier ∈ before, ∃ field, FilterMap.ReadsField earlier field) ∧
      FilterMap.FieldFails member e) ∧
    (∀ filters, FilterMap.ofText text = .ok filters ↔ ∃ fields,
      List.Forall₂ FilterMap.ReadsField members fields ∧
      filters.fields = fields.filter fun field => !field.groups.isEmpty) := by
  have hnodup : (members.map Prod.fst).Nodup := by
    cases hdenotes with
    | object _ _ hmap => exact hmap.nodup
  rw [FilterMap.ofText_eq htext hdenotes hnesting]
  exact ⟨FilterMap.exists_ofMembers_iff, fun _ => FilterMap.ofMembers_eq_error_iff,
    fun _ => FilterMap.ofMembers_eq_ok_iff hnodup⟩

namespace Squad

/-- A filter map in which the key `name` and, in it, the group `1` are given twice, and `team` has no
groups. -/
def written : Json.Value :=
  .object [("name", .null), ("team", .object []),
    ("age", .object [("0", .array [.text "like", .number (.integer 7)])]),
    ("name", .object [("1", .number (.integer 8)), ("0", .object [("o", .number (.integer 1))]),
      ("1", .object [("operator", .text "is"), ("v", .boolean true), ("x", .array [])]),
      ("0", .array [.null])])]

/-- The members of the text, each key once. -/
def members : List (String × Json.Value) :=
  [("name", .object
      [("1", .object [("operator", .text "is"), ("v", .boolean true), ("x", .array [])]),
        ("0", .array [.null])]),
    ("team", .object []),
    ("age", .object [("0", .array [.text "like", .number (.integer 7)])])]

end Squad

/-- What is given twice holds what came last where it came first, and a key without groups disappears. -/
theorem filter_map_decoding_is_exact_repeated_keys :
    (Json.Document.ofText? Squad.written.render = some Squad.written.toDocument ∧
      Squad.written.toDocument.Denotes (.object Squad.members) ∧
      Squad.written.toDocument.nesting ≤ Json.maxNesting) ∧
    FilterMap.ofText Squad.written.render = .ok ⟨[
      ⟨"name", [("1", ⟨some "is", "true"⟩), ("0", ⟨none, ""⟩)]⟩,
      ⟨"age", [("0", ⟨some "like", "7"⟩)]⟩]⟩ := by
  have hexact : Squad.written.Exact := by
    simp [Squad.written, Json.Value.exact_object_iff, Json.Value.exact_array_iff,
      Json.Value.exact_integer_iff, Json.Value.Exact.text, Json.Value.Exact.boolean,
      Json.Value.Exact.null, Json.InWord, Number.minInteger, Json.NumberLiteral.maxSignificand]
  have htext := hexact.ofText?_render
  have hvalue : Squad.written.toDocument.valueWithin? Json.maxNesting =
      some (.object Squad.members) := by rfl
  obtain ⟨hdenotes, hnesting⟩ := (Squad.written.toDocument.valueWithin?_eq_some_iff _ _).1 hvalue
  refine ⟨⟨htext, hdenotes, hnesting⟩,
    ((filter_map_decoding_is_exact htext hdenotes hnesting).2.2 _).2 ⟨[
      ⟨"name", [("1", ⟨some "is", "true"⟩), ("0", ⟨none, ""⟩)]⟩, ⟨"team", []⟩,
      ⟨"age", [("0", ⟨some "like", "7"⟩)]⟩], ?_, rfl⟩⟩
  have hname : FilterEntry.Reads
      (.object [("operator", .text "is"), ("v", .boolean true), ("x", .array [])]) ⟨some "is", "true"⟩ :=
    @FilterEntry.Reads.object _ (some (some "is")) (some "true") (.given (.text "is"))
      (.given (.boolean true))
  have hage : FilterEntry.Reads (.array [.text "like", .number (.integer 7)]) ⟨some "like", "7"⟩ :=
    .fullArray (.text "like") (.number (.integer 7))
  exact .cons ⟨_, rfl, rfl, .cons ⟨rfl, hname⟩ (.cons ⟨rfl, .operatorArray .null⟩ .nil)⟩
    (.cons ⟨_, rfl, rfl, .nil⟩ (.cons ⟨_, rfl, rfl, .cons ⟨rfl, hage⟩ .nil⟩ .nil))

end AdminQuery
