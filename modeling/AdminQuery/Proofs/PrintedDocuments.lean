import AdminQuery.Json.Reader
import AdminQuery.Proofs.PrintedLeaves

/-!
# Reading printed values back

A printed value is read back as the document of that value, as long as its numbers are whole and fit in
64 bits.  The statement that carries the induction is about a value in any place: its text hands its document
to the container around it and leaves the tokens behind it unread.

* `Value.Exact`: values whose numbers are whole and fit in 64 bits
* `tokens_punctuation`: a bracket or a separator is a token of its own
* `toList_render_array`, `toList_render_object`: texts of containers, the part behind the first comma apart
* `Value.ReadsBack`: the text of a value delivers its document, whatever stands around it
* `run_laterItems`, `run_laterMembers`: what follows the first comma is read item by item
* `Value.Exact.ofText?_render`: **a printed value is read back as its document**
-/

namespace AdminQuery.Json

/-- Values whose numbers are whole and fit in 64 bits. -/
inductive Value.Exact : Value → Prop where
  | null : Exact .null
  | boolean (b : Bool) : Exact (.boolean b)
  | integer {n : Int} (h : InWord n) : Exact (.number (.integer n))
  | text (s : String) : Exact (.text s)
  | array {items : List Value} (h : ∀ item ∈ items, item.Exact) : Exact (.array items)
  | object {members : List (String × Value)} (h : ∀ member ∈ members, member.2.Exact) :
      Exact (.object members)

theorem Value.exact_integer_iff {n : Int} : (number (.integer n)).Exact ↔ InWord n :=
  ⟨fun | .integer h => h, .integer⟩

theorem Value.exact_array_iff {items : List Value} :
    (array items).Exact ↔ ∀ item ∈ items, item.Exact :=
  ⟨fun | .array h => h, .array⟩

theorem Value.exact_object_iff {members : List (String × Value)} :
    (object members).Exact ↔ ∀ member ∈ members, member.2.Exact :=
  ⟨fun | .object h => h, .object⟩

/-! ### Brackets and separators -/

/-- A bracket or a separator is no blank and starts no text, number or word. -/
theorem classes_of_punctuation {c : Char} {token : Token} (h : punctuation? c = some token) :
    isGap c = false ∧ c ≠ '"' ∧ (c.isDigit || c == '-') = false ∧ c.isAlpha = false ∧
      isNumeric c = false := by
  have hc : c = '[' ∨ c = ']' ∨ c = '{' ∨ c = '}' ∨ c = ':' ∨ c = ',' := by
    rw [punctuation?] at h
    grind
  rcases hc with rfl | rfl | rfl | rfl | rfl | rfl <;> decide

/-- A bracket or a separator is a token of its own. -/
theorem tokens_punctuation {c : Char} {token : Token} (h : punctuation? c = some token)
    (rest : List Char) : tokens (c :: rest) = token :: tokens rest := by
  obtain ⟨hgap, hquote, hnumber, halpha, -⟩ := classes_of_punctuation h
  rw [tokens, hgap, if_neg (by decide), if_neg hquote, hnumber, if_neg (by decide), halpha,
    if_neg (by decide), h]

/-- A bracket or a separator ends the token in front of it. -/
theorem endsToken_punctuation {c : Char} {token : Token} (h : punctuation? c = some token)
    (rest : List Char) : EndsToken (c :: rest) := by
  obtain ⟨-, -, -, halpha, hnumeric⟩ := classes_of_punctuation h
  exact endsToken_cons hnumeric halpha rest

/-! ### Texts of arrays and objects -/

namespace Value

theorem renderItems_eq_map (items : List Value) : renderItems items = items.map render := by
  induction items with
  | nil => rfl
  | cons item items ih => rw [renderItems, List.map_cons, ih]

theorem itemDocuments_eq_map (items : List Value) : itemDocuments items = items.map toDocument := by
  induction items with
  | nil => rfl
  | cons item items ih => rw [itemDocuments, List.map_cons, ih]

/-- A member as its text. -/
def memberText (member : String × Value) : List Char :=
  (quoted member.1).toList ++ ':' :: member.2.render.toList

/-- A member as a document. -/
def memberDocument (member : String × Value) : Option String × Document :=
  (some member.1, member.2.toDocument)

theorem map_toList_renderMembers (members : List (String × Value)) :
    (renderMembers members).map String.toList = members.map memberText := by
  induction members with
  | nil => rfl
  | cons member members ih =>
    have htext : (quoted member.1 ++ ":" ++ member.2.render).toList = memberText member := by
      simp [memberText]
    rw [renderMembers, List.map_cons, List.map_cons, ih, htext]

theorem memberDocuments_eq_map (members : List (String × Value)) :
    memberDocuments members = members.map memberDocument := by
  induction members with
  | nil => rfl
  | cons member members ih =>
    rw [memberDocuments, List.map_cons, ih]
    rfl

/-- Parts with a separator between them: all but the first follow one. -/
theorem intercalate_cons_eq_flatMap (separator : Char) (first : List Char) (parts : List (List Char)) :
    [separator].intercalate (first :: parts) = first ++ parts.flatMap (separator :: ·) := by
  induction parts generalizing first with
  | nil => simp
  | cons next parts ih =>
    rw [List.intercalate_cons_cons, ih, List.flatMap_cons, List.append_assoc]
    rfl

/-- The text behind an item of an array: the items that follow, and the rest behind the array. -/
def laterItems (items : List Value) (rest : List Char) : List Char :=
  items.flatMap (fun item => ',' :: item.render.toList) ++ ']' :: rest

/-- The text behind a member of an object: the members that follow, and the rest behind the object. -/
def laterMembers (members : List (String × Value)) (rest : List Char) : List Char :=
  members.flatMap (fun member => ',' :: memberText member) ++ '}' :: rest

theorem laterItems_cons (item : Value) (items : List Value) (rest : List Char) :
    laterItems (item :: items) rest = ',' :: (item.render.toList ++ laterItems items rest) := by
  rw [laterItems, List.flatMap_cons, List.append_assoc]
  rfl

theorem laterMembers_cons (member : String × Value) (members : List (String × Value))
    (rest : List Char) :
    laterMembers (member :: members) rest = ',' :: (memberText member ++ laterMembers members rest) := by
  rw [laterMembers, List.flatMap_cons, List.append_assoc]
  rfl

theorem endsToken_laterItems (items : List Value) (rest : List Char) :
    EndsToken (laterItems items rest) := by
  cases items with
  | nil => exact endsToken_punctuation (show punctuation? ']' = some .closeArray from rfl) rest
  | cons item items =>
    rw [laterItems_cons]
    exact endsToken_punctuation (show punctuation? ',' = some .comma from rfl) _

theorem endsToken_laterMembers (members : List (String × Value)) (rest : List Char) :
    EndsToken (laterMembers members rest) := by
  cases members with
  | nil => exact endsToken_punctuation (show punctuation? '}' = some .closeObject from rfl) rest
  | cons member members =>
    rw [laterMembers_cons]
    exact endsToken_punctuation (show punctuation? ',' = some .comma from rfl) _

theorem toList_render_nil_array (rest : List Char) :
    (array []).render.toList ++ rest = '[' :: ']' :: rest :=
  rfl

theorem toList_render_array (item : Value) (items : List Value) (rest : List Char) :
    (array (item :: items)).render.toList ++ rest =
      '[' :: (item.render.toList ++ laterItems items rest) := by
  have hitems : (renderItems (item :: items)).map String.toList =
      item.render.toList :: items.map fun item => item.render.toList := by
    rw [renderItems_eq_map, List.map_map]
    rfl
  have hseparator : ",".toList = [','] := rfl
  rw [render, String.toList_append, String.toList_append, String.toList_intercalate, hitems,
    hseparator, intercalate_cons_eq_flatMap, List.flatMap_map, laterItems]
  simp

theorem toList_render_nil_object (rest : List Char) :
    (object []).render.toList ++ rest = '{' :: '}' :: rest :=
  rfl

theorem toList_render_object (member : String × Value) (members : List (String × Value))
    (rest : List Char) :
    (object (member :: members)).render.toList ++ rest =
      '{' :: (memberText member ++ laterMembers members rest) := by
  have hseparator : ",".toList = [','] := rfl
  rw [render, String.toList_append, String.toList_append, String.toList_intercalate,
    map_toList_renderMembers, hseparator, List.map_cons, intercalate_cons_eq_flatMap, List.flatMap_map,
    laterMembers]
  simp

/-! ### Values in any place -/

/-- The text of a value delivers its document to the containers around it and leaves the tokens behind
it. -/
def ReadsBack (value : Value) : Prop :=
  ∀ (outer : List Frame) (rest : List Char), EndsToken rest →
    Reading.run (.value outer) (tokens (value.render.toList ++ rest)) =
      Reading.run (Reading.deliver value.toDocument outer) (tokens rest)

/-- A value that is one token is read back. -/
theorem readsBack_of_tokens {value : Value} (token : Token)
    (htokens : ∀ rest, EndsToken rest → tokens (value.render.toList ++ rest) = token :: tokens rest)
    (hstart : ∀ outer, Reading.startValue outer token =
      some (Reading.deliver value.toDocument outer)) : value.ReadsBack := by
  intro outer rest hrest
  have hstep : (Reading.value outer).step token = some (Reading.deliver value.toDocument outer) :=
    hstart outer
  rw [htokens rest hrest, Reading.run, hstep]
  intro document h
  cases h

/-- A word or a number is read back. -/
theorem readsBack_of_leaf {value : Value}
    (h : ∀ rest, EndsToken rest →
      tokens (value.render.toList ++ rest) = .leaf value.toDocument :: tokens rest) :
    value.ReadsBack := by
  apply readsBack_of_tokens (.leaf value.toDocument) h
  intro outer
  rfl

theorem readsBack_null : ReadsBack .null := by
  apply readsBack_of_leaf
  intro rest hrest
  show tokens ('n' :: ['u', 'l', 'l'] ++ rest) = _
  exact tokens_word rfl rfl rfl hrest

theorem readsBack_boolean (b : Bool) : ReadsBack (.boolean b) := by
  apply readsBack_of_leaf
  intro rest hrest
  cases b with
  | true =>
    show tokens ('t' :: ['r', 'u', 'e'] ++ rest) = _
    exact tokens_word rfl rfl rfl hrest
  | false =>
    show tokens ('f' :: ['a', 'l', 's', 'e'] ++ rest) = _
    exact tokens_word rfl rfl rfl hrest

theorem readsBack_integer {n : Int} (h : InWord n) : ReadsBack (.number (.integer n)) := by
  apply readsBack_of_leaf
  intro rest hrest
  exact tokens_integer h hrest

theorem readsBack_text (s : String) : ReadsBack (.text s) := by
  apply readsBack_of_tokens (.text (some s))
  · intro rest _
    exact tokens_quoted s rest
  · intro outer
    rfl

/-- The first item of an array is read as any other: its text does not start with the end of an array. -/
theorem ReadsBack.run_firstItem {value : Value} (h : value.ReadsBack) (outer : List Frame)
    {rest : List Char} (hrest : EndsToken rest) :
    Reading.run (.firstItem outer) (tokens (value.render.toList ++ rest)) =
      Reading.run (.afterItem [value.toDocument] outer) (tokens rest) := by
  have hitem := h (.array [] :: outer) rest hrest
  have halone := h [] rest hrest
  rw [Reading.deliver, Reading.run] at halone
  rw [Reading.deliver] at hitem
  rw [← hitem]
  generalize tokens (value.render.toList ++ rest) = ts at halone ⊢
  cases ts with
  | nil => rfl
  | cons token ts =>
    cases token with
    | closeArray => cases halone
    | openArray => rfl
    | openObject => rfl
    | closeObject => rfl
    | colon => rfl
    | comma => rfl
    | leaf document => rfl
    | text s => rfl
    | invalid => rfl

/-- **The later items of an array are read one after the other.**  By induction on these items, with the
documents of the items in front of them. -/
theorem run_laterItems {items : List Value} (h : ∀ item ∈ items, item.ReadsBack)
    (done : List Document) (outer : List Frame) (rest : List Char) :
    Reading.run (.afterItem done outer) (tokens (laterItems items rest)) =
      Reading.run (Reading.deliver (.array (done.reverse ++ items.map toDocument)) outer)
        (tokens rest) := by
  induction items generalizing done with
  | nil =>
    show Reading.run (.afterItem done outer) (tokens (']' :: rest)) = _
    rw [tokens_punctuation rfl, List.map_nil, List.append_nil]
    rfl
  | cons item items ih =>
    rw [List.forall_mem_cons] at h
    rw [laterItems_cons, tokens_punctuation rfl]
    show Reading.run (.value (.array done :: outer)) _ = _
    rw [h.1 _ _ (endsToken_laterItems items rest)]
    show Reading.run (.afterItem (item.toDocument :: done) outer) _ = _
    rw [ih h.2, List.reverse_cons, List.append_assoc]
    rfl

/-- An array is read back if its items are. -/
theorem readsBack_array {items : List Value} (h : ∀ item ∈ items, item.ReadsBack) :
    ReadsBack (.array items) := by
  intro outer rest _
  rw [toDocument, itemDocuments_eq_map]
  cases items with
  | nil =>
    rw [toList_render_nil_array, tokens_punctuation rfl, tokens_punctuation rfl]
    rfl
  | cons item items =>
    rw [List.forall_mem_cons] at h
    rw [toList_render_array, tokens_punctuation rfl]
    show Reading.run (.firstItem outer) _ = _
    rw [h.1.run_firstItem outer (endsToken_laterItems items rest), run_laterItems h.2]
    rfl

/-- A member of an object is read where a key may stand. -/
theorem run_member {member : String × Value} (h : member.2.ReadsBack)
    (done : List (Option String × Document)) (outer : List Frame) {rest : List Char}
    (hrest : EndsToken rest) :
    Reading.run (.nextKey done outer) (tokens (memberText member ++ rest)) =
      Reading.run (.afterMember (memberDocument member :: done) outer) (tokens rest) := by
  rw [memberText, List.append_assoc, tokens_quoted, List.cons_append, tokens_punctuation rfl]
  show Reading.run (.value (.object done (some member.1) :: outer)) _ = _
  rw [h _ _ hrest]
  rfl

/-- **The later members of an object are read one after the other.** -/
theorem run_laterMembers {members : List (String × Value)}
    (h : ∀ member ∈ members, member.2.ReadsBack) (done : List (Option String × Document))
    (outer : List Frame) (rest : List Char) :
    Reading.run (.afterMember done outer) (tokens (laterMembers members rest)) =
      Reading.run (Reading.deliver (.object (done.reverse ++ members.map memberDocument)) outer)
        (tokens rest) := by
  induction members generalizing done with
  | nil =>
    show Reading.run (.afterMember done outer) (tokens ('}' :: rest)) = _
    rw [tokens_punctuation rfl, List.map_nil, List.append_nil]
    rfl
  | cons member members ih =>
    rw [List.forall_mem_cons] at h
    rw [laterMembers_cons, tokens_punctuation rfl]
    show Reading.run (.nextKey done outer) _ = _
    rw [run_member h.1 done outer (endsToken_laterMembers members rest), ih h.2, List.reverse_cons,
      List.append_assoc]
    rfl

/-- An object is read back if the values of its members are. -/
theorem readsBack_object {members : List (String × Value)}
    (h : ∀ member ∈ members, member.2.ReadsBack) : ReadsBack (.object members) := by
  intro outer rest _
  rw [toDocument, memberDocuments_eq_map]
  cases members with
  | nil =>
    rw [toList_render_nil_object, tokens_punctuation rfl, tokens_punctuation rfl]
    rfl
  | cons member members =>
    rw [List.forall_mem_cons] at h
    -- An opened object takes a key as one with members does.
    have hfirst : Reading.run (.firstKey outer)
        (tokens (memberText member ++ laterMembers members rest)) =
          Reading.run (.nextKey [] outer) (tokens (memberText member ++ laterMembers members rest)) := by
      rw [memberText, List.append_assoc, tokens_quoted]
      rfl
    rw [toList_render_object, tokens_punctuation rfl]
    show Reading.run (.firstKey outer) _ = _
    rw [hfirst, run_member h.1 [] outer (endsToken_laterMembers members rest), run_laterMembers h.2]
    rfl

/-- **A printed value is read back, whatever stands around it.** -/
theorem Exact.readsBack {value : Value} (h : value.Exact) : value.ReadsBack := by
  induction h with
  | null => exact readsBack_null
  | boolean b => exact readsBack_boolean b
  | integer h => exact readsBack_integer h
  | text s => exact readsBack_text s
  | array _ ih => exact readsBack_array ih
  | object _ ih => exact readsBack_object ih

/-- **A printed value is read back as its document.** -/
theorem Exact.ofText?_render {value : Value} (h : value.Exact) :
    Document.ofText? value.render = some value.toDocument := by
  have hrun := h.readsBack [] [] endsToken_nil
  rw [List.append_nil, tokens, Reading.deliver, Reading.run] at hrun
  rw [Document.ofText?, Document.first?, hrun]

end Value

end AdminQuery.Json
