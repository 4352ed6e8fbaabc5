import AdminQuery.CommandLine.Session
import AdminQuery.Proofs.DocumentGrammar
import AdminQuery.Proofs.FilterMapDecoding

/-!
# Reading a request

A session reads its request in two steps: the whole text to a value, and the value to a filter map.  A filter
map is also read from its text at once, where the members are put into a map as they come.

* `Text.lt_or_lt_of_isBlank`: blanks lie outside the printable ASCII characters
* `Json.Writes`, `Json.ofText?_eq_some_iff`: the value that is written in a text
* `Json.tokens_of_isBlank`, `Json.not_writes_of_isAllBlank`: **no value is written in a text of blanks**
* `Json.Document.orderedMap?`, `Json.Document.toValue?_eq_object_iff`: **members put into a map one by one are the
  members of the value**
* `FilterMap.Reads`, `FilterMap.ofText_eq_ok_iff`: the filter map of a value, and of a text
* `CommandLine.RequestFails`, `CommandLine.readRequest_eq_error_iff`: why a request is refused
* `requests_are_read_alike`: **the two ways to read a filter map accept the same texts and give the same filters**
-/

namespace AdminQuery

/-- Blanks lie outside the printable ASCII characters. -/
theorem Text.lt_or_lt_of_isBlank {c : Char} (h : isBlank c = true) : c.toNat < 33 ∨ 126 < c.toNat := by
  obtain ⟨range, hrange, hc⟩ := List.any_eq_true.1 h
  have hout : ∀ range ∈ blankRanges, range.2 < 33 ∨ 126 < range.1 := by decide
  have hends := hout range hrange
  simp only [Bool.and_eq_true, decide_eq_true_eq] at hc
  omega

namespace Json

/-! ### Texts of blanks -/

section Blank

variable {c : Char}

theorem isDigit_eq_false_of_isBlank (h : Text.isBlank c = true) : c.isDigit = false := by
  rw [Bool.eq_false_iff]
  intro hdigit
  rw [Text.isBlank_of_isDigit hdigit] at h
  cases h

theorem isAlpha_eq_false_of_isBlank (h : Text.isBlank c = true) : c.isAlpha = false := by
  have hout := Text.lt_or_lt_of_isBlank h
  rw [Bool.eq_false_iff]
  intro halpha
  change (decide (c.val ≥ 'A'.val ∧ c.val ≤ 'Z'.val) ||
    (decide (c.val ≥ 'a'.val) && decide (c.val ≤ 'z'.val))) = true at halpha
  simp only [Bool.or_eq_true, Bool.and_eq_true, decide_eq_true_eq, UInt32.le_iff_toNat_le, ge_iff_le] at halpha
  change (65 ≤ c.toNat ∧ c.toNat ≤ 90) ∨ (97 ≤ c.toNat ∧ c.toNat ≤ 122) at halpha
  omega

/-- A blank is none of the printable ASCII characters. -/
theorem ne_of_isBlank (h : Text.isBlank c = true) {d : Char} (hlow : 33 ≤ d.toNat) (hhigh : d.toNat ≤ 126) :
    c ≠ d := by
  rintro rfl
  have hout := Text.lt_or_lt_of_isBlank h
  omega

theorem punctuation?_eq_none_of_isBlank (h : Text.isBlank c = true) : punctuation? c = none := by
  rw [punctuation?]
  repeat rw [if_neg (ne_of_isBlank h (by decide) (by decide))]

/-- **Blanks are skipped or are a fault.** -/
theorem tokens_of_isBlank {cs : List Char} (h : ∀ c ∈ cs, Text.isBlank c = true) :
    tokens cs = [] ∨ tokens cs = [.invalid] := by
  induction cs with
  | nil => exact .inl (by rw [tokens])
  | cons c rest ih =>
    obtain ⟨hc, hrest⟩ := List.forall_mem_cons.1 h
    rw [tokens]
    by_cases hgap : isGap c = true
    · rw [if_pos hgap]
      exact ih hrest
    · have hquote : c ≠ '"' := ne_of_isBlank hc (by decide) (by decide)
      have hminus : c ≠ '-' := ne_of_isBlank hc (by decide) (by decide)
      have hsign : (c.isDigit || c == '-') = false := by
        simp [isDigit_eq_false_of_isBlank hc, hminus]
      rw [if_neg hgap, if_neg hquote, if_neg (by simp [hsign]),
        if_neg (by simp [isAlpha_eq_false_of_isBlank hc]), punctuation?_eq_none_of_isBlank hc]
      exact .inr rfl

end Blank

/-! ### The value of a text -/

/-- A text whose tokens spell one document writes the value that the document denotes, unless the document nests
too deep. -/
def Writes (text : String) (value : Value) : Prop :=
  ∃ document, Spells (tokens text.toList) document ∧ document.Denotes value ∧ document.nesting ≤ maxNesting

theorem ofText?_eq_some_iff {text : String} {value : Value} :
    Value.ofText? text = some value ↔ Writes text value := by
  simp only [Value.ofText?, Option.bind_eq_some_iff, Document.ofText?_eq_some_iff, Document.toValue?,
    Document.valueWithin?_eq_some_iff, Writes]

theorem ofText?_eq_none_iff {text : String} :
    Value.ofText? text = none ↔ ∀ value, ¬Writes text value := by
  simp only [Option.eq_none_iff_forall_ne_some, ne_eq, ofText?_eq_some_iff]

/-- **No value is written in a text of blanks.** -/
theorem not_writes_of_isAllBlank {text : String} (h : Text.isAllBlank text = true) (value : Value) :
    ¬Writes text value := by
  rintro ⟨document, hspells, -⟩
  rw [Text.isAllBlank, List.all_eq_true] at h
  rcases tokens_of_isBlank h with htokens | htokens
  · rw [htokens] at hspells
    cases hspells
  · rw [htokens] at hspells
    cases hspells

/-- In a written object every key stands once. -/
theorem Writes.nodup {text : String} {members : List (String × Value)}
    (h : Writes text (.object members)) : (members.map Prod.fst).Nodup := by
  obtain ⟨document, -, hdenotes, -⟩ := h
  cases hdenotes with
  | object _ _ hmap => exact hmap.nodup

/-! ### Members put into a map -/

namespace Document

/-- One more member of an object, read for itself and put into the map. -/
def putMember (held : List (String × Value)) (member : Option String × Document) :
    Option (List (String × Value)) := do
  let key ← member.1
  let value ← member.2.valueWithin? (maxNesting - 1)
  return Keyed.upsert Prod.fst (key, value) held

/-- The members of an object, put into a map as they come; a document of another kind has none. -/
def orderedMap? : Document → Option (List (String × Value))
  | .object members => members.foldlM putMember []
  | _ => none

/-- **Members put into a map one by one are read first and put into it afterwards.** -/
theorem foldlM_putMember (members : List (Option String × Document)) (held : List (String × Value)) :
    members.foldlM putMember held = (memberValues? (maxNesting - 1) members).map fun read =>
      read.foldl (fun held member => Keyed.upsert Prod.fst member held) held := by
  induction members generalizing held with
  | nil => rfl
  | cons member rest ih =>
    obtain ⟨key, document⟩ := member
    rw [List.foldlM_cons, putMember, memberValues?]
    cases key with
    | none => rfl
    | some key =>
      cases document.valueWithin? (maxNesting - 1) with
      | none => rfl
      | some value =>
        show rest.foldlM putMember (Keyed.upsert Prod.fst (key, value) held) = _
        rw [ih]
        cases memberValues? (maxNesting - 1) rest <;> rfl

theorem toValue?_object (members : List (Option String × Document)) :
    (Document.object members).toValue? = (Document.object members).orderedMap?.map .object := by
  rw [toValue?, valueWithin?, if_neg (by decide), orderedMap?, foldlM_putMember, Option.map_map]
  rfl

/-- **The members put into a map one by one are the members of the value.** -/
theorem toValue?_eq_object_iff {document : Document} {members : List (String × Value)} :
    document.toValue? = some (.object members) ↔ document.orderedMap? = some members := by
  cases document with
  | object read => simp [toValue?_object]
  | null => simp [toValue?, valueWithin?, orderedMap?]
  | boolean b => simp [toValue?, valueWithin?, orderedMap?]
  | number n => simp [toValue?, valueWithin?, orderedMap?]
  | text s => simp [toValue?, valueWithin?, orderedMap?]
  | array items => simp [toValue?, valueWithin?, orderedMap?]

end Document

end Json

namespace FilterMap

open Json (Value)

/-! ### The filter map of a value -/

/-- A value that is an object of objects of entries holds the filters of its members that have entries. -/
def Reads (value : Value) (filters : FilterMap) : Prop :=
  ∃ members fields, value = .object members ∧ List.Forall₂ ReadsField members fields ∧
    filters.fields = fields.filter fun field => !field.groups.isEmpty

/-- Only an object holds filters. -/
theorem ofValue_eq_ok_iff {value : Value} {filters : FilterMap} :
    ofValue value = .ok filters ↔ ∃ members, value = .object members ∧ ofMembers members = .ok filters := by
  cases value with
  | object members => simp [ofValue]
  | null | boolean | number | text | array => simp [ofValue]

theorem ofValue_eq_ok_iff_of_writes {text : String} {value : Value} (h : Json.Writes text value)
    {filters : FilterMap} : ofValue value = .ok filters ↔ Reads value filters := by
  rw [ofValue_eq_ok_iff]
  constructor
  · rintro ⟨members, rfl, hmembers⟩
    obtain ⟨fields, hfields⟩ := (ofMembers_eq_ok_iff h.nodup).1 hmembers
    exact ⟨members, fields, rfl, hfields⟩
  · rintro ⟨members, fields, rfl, hfields⟩
    exact ⟨members, rfl, (ofMembers_eq_ok_iff h.nodup).2 ⟨fields, hfields⟩⟩

/-- A text is a filter map only as a whole, although what follows it is looked at last. -/
theorem exists_ofText?_of_ofText {text : String} {filters : FilterMap} (h : ofText text = .ok filters) :
    ∃ value, Value.ofText? text = some value := by
  rw [ofText] at h
  split at h
  · cases h
  · rename_i document rest hfirst
    split at h
    · cases h
    · rename_i value hvalue
      obtain ⟨read, -, h⟩ := Fallible.bind_eq_ok_iff.1 h
      -- Tokens behind the document would be an error.
      have hrest : rest = [] := by
        cases rest with
        | nil => rfl
        | cons token rest => cases h
      subst hrest
      exact ⟨value, by rw [Value.ofText?, Json.Document.ofText?, hfirst]; exact hvalue⟩

/-- **The filter map of a text is that of the value written in it.** -/
theorem ofText_eq_ok_iff {text : String} {filters : FilterMap} :
    ofText text = .ok filters ↔ ∃ value, Json.Writes text value ∧ ofValue value = .ok filters := by
  simp only [← Json.ofText?_eq_some_iff]
  constructor
  · intro h
    obtain ⟨value, hvalue⟩ := exists_ofText?_of_ofText h
    exact ⟨value, hvalue, by rw [← ofText_eq_ofValue hvalue, h]⟩
  · rintro ⟨value, hvalue, h⟩
    rw [ofText_eq_ofValue hvalue, h]

/-- **The members of the text are put into a map as they come, and filters are read from the map.** -/
theorem ofText_eq_ok_iff_orderedMap {text : String} {filters : FilterMap} :
    ofText text = .ok filters ↔ ∃ document members, Json.Spells (Json.tokens text.toList) document ∧
      document.orderedMap? = some members ∧ ofMembers members = .ok filters := by
  simp only [ofText_eq_ok_iff, ofValue_eq_ok_iff, ← Json.ofText?_eq_some_iff, Value.ofText?,
    Option.bind_eq_some_iff, Json.Document.ofText?_eq_some_iff, ← Json.Document.toValue?_eq_object_iff]
  constructor
  · rintro ⟨_, ⟨document, htext, hvalue⟩, members, rfl, hmembers⟩
    exact ⟨document, members, htext, hvalue, hmembers⟩
  · rintro ⟨document, members, htext, hvalue, hmembers⟩
    exact ⟨.object members, ⟨document, htext, hvalue⟩, members, rfl, hmembers⟩

end FilterMap

namespace CommandLine

open Json (Value Writes)

/-! ### Requests -/

/-- The input of a session is its text in UTF-8. -/
theorem requestFrom_toUTF8 {m : Type → Type} [Monad m] [LawfulMonad m] (text : String) :
    (requestFrom (pure (some text.toUTF8) : m (Option ByteArray))).run = pure (readRequest text) := by
  have htext : textOf? (some text.toUTF8) = some text := dif_pos text.isValidUTF8
  rw [requestFrom, ExceptT.run_mk, pure_bind, htext]

theorem readRequest_eq_ok_iff {text : String} {filters : FilterMap} :
    readRequest text = .ok filters ↔ ∃ value, Writes text value ∧ FilterMap.ofValue value = .ok filters := by
  rw [readRequest]
  by_cases hblank : Text.isAllBlank text = true
  · simp [hblank, Json.not_writes_of_isAllBlank hblank]
  · rw [if_neg hblank]
    cases hvalue : Value.ofText? text with
    | none => simp [Json.ofText?_eq_none_iff.1 hvalue]
    | some value =>
      simp only [← Json.ofText?_eq_some_iff, hvalue, Option.some.injEq, exists_eq_left']
      cases FilterMap.ofValue value <;> simp [Except.mapError]

/-- Why a request is refused: nothing stands in its text, no value is written in it, or the value is no filter
map. -/
inductive RequestFails (text : String) : SessionError → Prop where
  | emptyInput : Text.trim text = "" → RequestFails text .emptyInput
  | notJson : Text.trim text ≠ "" → (∀ value, ¬ Writes text value) → RequestFails text .notJson
  | notFilterMap {value : Value} {e : FilterError} :
    Writes text value → FilterMap.ofValue value = .error e → RequestFails text (.notFilterMap e)

theorem readRequest_eq_error_iff {text : String} {e : SessionError} :
    readRequest text = .error e ↔ RequestFails text e := by
  rw [readRequest]
  constructor
  · intro h
    split at h
    · rename_i hblank
      cases h
      exact .emptyInput (Text.isAllBlank_iff_trim.1 hblank)
    · rename_i hblank
      split at h
      · rename_i hnone
        cases h
        exact .notJson (fun htrim => hblank (Text.isAllBlank_iff_trim.2 htrim))
          (Json.ofText?_eq_none_iff.1 hnone)
      · rename_i value hvalue
        cases hread : FilterMap.ofValue value with
        | ok filters =>
          rw [hread] at h
          cases h
        | error fault =>
          rw [hread] at h
          cases h
          exact .notFilterMap (Json.ofText?_eq_some_iff.1 hvalue) hread
  · intro h
    cases h with
    | emptyInput htrim => rw [if_pos (Text.isAllBlank_iff_trim.2 htrim)]
    | notJson htrim hnone =>
      rw [if_neg fun hblank => htrim (Text.isAllBlank_iff_trim.1 hblank), Json.ofText?_eq_none_iff.2 hnone]
    | notFilterMap hwrites hread =>
      have hblank : ¬Text.isAllBlank text = true := fun hblank =>
        Json.not_writes_of_isAllBlank hblank _ hwrites
      rw [if_neg hblank, Json.ofText?_eq_some_iff.2 hwrites]
      show (FilterMap.ofValue _).mapError _ = _
      rw [hread]
      rfl

theorem requestFails_emptyInput_iff {text : String} :
    RequestFails text .emptyInput ↔ Text.trim text = "" := by
  constructor
  · rintro ⟨htrim⟩
    exact htrim
  · exact .emptyInput

theorem requestFails_notJson_iff {text : String} :
    RequestFails text .notJson ↔ Text.trim text ≠ "" ∧ ∀ value, ¬Writes text value := by
  constructor
  · rintro (_ | ⟨htrim, hnone⟩)
    exact ⟨htrim, hnone⟩
  · rintro ⟨htrim, hnone⟩
    exact .notJson htrim hnone

/-- A value that is no filter map is refused with the error of its text. -/
theorem requestFails_notFilterMap_iff {text : String} {fault : FilterError} :
    RequestFails text (.notFilterMap fault) ↔
      (∃ value, Writes text value) ∧ FilterMap.ofText text = .error fault := by
  constructor
  · intro hfails
    cases hfails with
    | @notFilterMap value _ hwrites hread =>
      exact ⟨⟨value, hwrites⟩, by rw [FilterMap.ofText_eq_ofValue (Json.ofText?_eq_some_iff.2 hwrites), hread]⟩
  · rintro ⟨⟨value, hwrites⟩, hread⟩
    rw [FilterMap.ofText_eq_ofValue (Json.ofText?_eq_some_iff.2 hwrites)] at hread
    exact .notFilterMap hwrites hread

theorem exists_requestFails_notFilterMap_iff {text : String} :
    (∃ fault, RequestFails text (.notFilterMap fault)) ↔
      ∃ value, Writes text value ∧ ∀ filters, ¬FilterMap.Reads value filters := by
  constructor
  · rintro ⟨fault, hfails⟩
    cases hfails with
    | @notFilterMap value _ hwrites hread =>
      refine ⟨value, hwrites, fun filters hreads => ?_⟩
      rw [(FilterMap.ofValue_eq_ok_iff_of_writes hwrites).2 hreads] at hread
      cases hread
  · rintro ⟨value, hwrites, hnone⟩
    cases hread : FilterMap.ofValue value with
    | ok filters => exact absurd ((FilterMap.ofValue_eq_ok_iff_of_writes hwrites).1 hread) (hnone filters)
    | error fault => exact ⟨fault, .notFilterMap hwrites hread⟩

/-! ### The wording of a refusal -/

/-- A text does not go on from one whose beginning is different. -/
theorem not_append_of_take_ne {s front : String} (n : Nat) (hlength : n ≤ front.toList.length)
    (h : s.toList.take n ≠ front.toList.take n) : ¬∃ detail, s = front ++ detail := by
  rintro ⟨detail, rfl⟩
  rw [String.toList_append, List.take_append_of_le_length hlength] at h
  exact h rfl

namespace RequestFails

variable {text : String} {e : SessionError}

theorem message_eq_emptyInput_iff (h : RequestFails text e) : e.message = "Empty input" ↔ e = .emptyInput := by
  cases h with
  | emptyInput => exact iff_of_true rfl rfl
  | notJson => exact iff_of_false (by decide) (by simp)
  | notFilterMap =>
    have hstart : ¬∃ detail, "Empty input" = "Invalid filter map: " ++ detail :=
      not_append_of_take_ne 9 (by decide) (by decide)
    exact iff_of_false (fun hmessage => hstart ⟨_, hmessage.symm⟩) (by simp)

theorem message_eq_notJson_iff (h : RequestFails text e) :
    (∃ detail, e.message = "Invalid JSON: " ++ detail) ↔ e = .notJson := by
  cases h with
  | emptyInput => exact iff_of_false (not_append_of_take_ne 9 (by decide) (by decide)) (by simp)
  | notJson =>
    have hwording : "Invalid JSON: not a JSON text" = "Invalid JSON: " ++ "not a JSON text" := by decide
    exact iff_of_true ⟨_, hwording⟩ rfl
  | @notFilterMap _ fault =>
    refine iff_of_false (not_append_of_take_ne 9 (by decide) ?_) (by simp)
    show ("Invalid filter map: " ++ fault.message).toList.take 9 ≠ _
    rw [String.toList_append, List.take_append_of_le_length (by decide)]
    decide

theorem message_eq_notFilterMap_iff (h : RequestFails text e) :
    (∃ detail, e.message = "Invalid filter map: " ++ detail) ↔ ∃ fault, e = .notFilterMap fault := by
  cases h with
  | emptyInput => exact iff_of_false (not_append_of_take_ne 9 (by decide) (by decide)) (by simp)
  | notJson => exact iff_of_false (not_append_of_take_ne 9 (by decide) (by decide)) (by simp)
  | notFilterMap => exact iff_of_true ⟨_, rfl⟩ ⟨_, rfl⟩

end RequestFails

end CommandLine

/-- **A request is read alike in one step and in two.**  The filter map of a text, whose members are put into a
map as they come, is the filter map of the value that is written in it, so the two ways accept the same texts
and give the same filters: a key that is given twice, a name of a slot, a number and the depth of nesting mean
the same to both.  A text of blanks is refused as such; any other text is refused as JSON if and only if no
value is written in it, and as a filter map if and only if its value is none, with the error of the other way. -/
theorem requests_are_read_alike (text : String) :
    (∀ (m : Type → Type) [Monad m] [LawfulMonad m],
      (CommandLine.requestFrom (pure (some text.toUTF8) : m (Option ByteArray))).run =
        pure (CommandLine.readRequest text)) ∧
    (∀ filters, CommandLine.readRequest text = .ok filters ↔ FilterMap.ofText text = .ok filters) ∧
    (∀ filters, FilterMap.ofText text = .ok filters ↔ ∃ document members,
      Json.Spells (Json.tokens text.toList) document ∧ document.orderedMap? = some members ∧
      FilterMap.ofMembers members = .ok filters) ∧
    (∀ filters, CommandLine.readRequest text = .ok filters ↔ ∃ value, Json.Writes text value ∧
      FilterMap.Reads value filters) ∧
    ((∃ e, CommandLine.readRequest text = .error e ∧ e.message = "Empty input") ↔ Text.trim text = "") ∧
    ((∃ e detail, CommandLine.readRequest text = .error e ∧ e.message = "Invalid JSON: " ++ detail) ↔
      Text.trim text ≠ "" ∧ ∀ value, ¬Json.Writes text value) ∧
    ((∃ e detail, CommandLine.readRequest text = .error e ∧ e.message = "Invalid filter map: " ++ detail) ↔
      ∃ value, Json.Writes text value ∧ ∀ filters, ¬FilterMap.Reads value filters) ∧
    ∀ fault, CommandLine.readRequest text = .error (.notFilterMap fault) ↔
      (∃ value, Json.Writes text value) ∧ FilterMap.ofText text = .error fault := by
  have hmap : ∀ {filters}, CommandLine.readRequest text = .ok filters ↔ FilterMap.ofText text = .ok filters :=
    CommandLine.readRequest_eq_ok_iff.trans FilterMap.ofText_eq_ok_iff.symm
  simp only [CommandLine.readRequest_eq_error_iff]
  refine ⟨fun m _ _ => CommandLine.requestFrom_toUTF8 text, fun filters => hmap,
    fun filters => FilterMap.ofText_eq_ok_iff_orderedMap, fun filters => ?_, ?_, ?_, ?_, fun fault => ?_⟩
  · rw [CommandLine.readRequest_eq_ok_iff]
    exact exists_congr fun value => and_congr_right fun hwrites => FilterMap.ofValue_eq_ok_iff_of_writes hwrites
  · rw [← CommandLine.requestFails_emptyInput_iff]
    constructor
    · rintro ⟨e, hfails, hmessage⟩
      rwa [hfails.message_eq_emptyInput_iff.1 hmessage] at hfails
    · intro hfails
      exact ⟨_, hfails, hfails.message_eq_emptyInput_iff.2 rfl⟩
  · rw [← CommandLine.requestFails_notJson_iff]
    constructor
    · rintro ⟨e, detail, hfails, hmessage⟩
      rwa [hfails.message_eq_notJson_iff.1 ⟨detail, hmessage⟩] at hfails
    · intro hfails
      obtain ⟨detail, hmessage⟩ := hfails.message_eq_notJson_iff.2 rfl
      exact ⟨_, detail, hfails, hmessage⟩
  · rw [← CommandLine.exists_requestFails_notFilterMap_iff]
    constructor
    · rintro ⟨e, detail, hfails, hmessage⟩
      obtain ⟨fault, rfl⟩ := hfails.message_eq_notFilterMap_iff.1 ⟨detail, hmessage⟩
      exact ⟨fault, hfails⟩
    · rintro ⟨fault, hfails⟩
      obtain ⟨detail, hmessage⟩ := hfails.message_eq_notFilterMap_iff.2 ⟨fault, rfl⟩
      exact ⟨_, detail, hfails, hmessage⟩
  · exact CommandLine.requestFails_notFilterMap_iff

namespace Squad

/-- A filter map in which the key `name` and, where it comes last, the group `1` are given twice. -/
def request : Json.Value :=
  .object [("name", .null), ("team", .object [("0", .array [.text "is"])]),
    ("name", .object [("1", .text ""), ("0", .object [("value", .text "Jets")]),
      ("1", .object [("o", .null), ("w", .array [])])])]

/-- The filters of the request. -/
def requested : FilterMap :=
  ⟨[⟨"name", [("1", ⟨none, ""⟩), ("0", ⟨none, "Jets"⟩)]⟩, ⟨"team", [("0", ⟨some "is", ""⟩)]⟩]⟩

end Squad

/-- What is given twice is read alike in one step and in two. -/
theorem requests_are_read_alike_repeated_keys :
    (CommandLine.requestFrom (pure (some Squad.request.render.toUTF8) : Id (Option ByteArray))).run =
        pure (Except.ok Squad.requested) ∧
      FilterMap.ofText Squad.request.render = .ok Squad.requested := by
  obtain ⟨hrequest, hmap, hstream, -⟩ := requests_are_read_alike Squad.request.render
  have hexact : Squad.request.Exact := by
    simp [Squad.request, Json.Value.exact_object_iff, Json.Value.exact_array_iff, Json.Value.Exact.text,
      Json.Value.Exact.null]
  have htext : FilterMap.ofText Squad.request.render = .ok Squad.requested :=
    (hstream _).2 ⟨_, _, Json.Document.ofText?_eq_some_iff.1 hexact.ofText?_render, rfl, rfl⟩
  exact ⟨by rw [hrequest, (hmap _).2 htext], htext⟩

end AdminQuery
