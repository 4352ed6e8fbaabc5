import AdminQuery.Json.Reader

/-!
# The grammar of documents

A document is read token by token, with the containers that are still open on a stack.  What is read that way is
what the grammar of documents says.

* `Json.Spells`, `Json.SpellsItems`, `Json.SpellsMembers`: the tokens of a document, of items and of members with
  commas between them
* `Json.run_of_spells`: the tokens of a document deliver it to the containers around it
* `Json.Opens`, `Json.Reached`: the tokens in front of a place inside open containers, and of a state of the reader
* `Json.Reached.step`, `Json.Reached.run`: **a token, and a whole run, lead to states that say what was read**
* `Json.Document.first?_eq_some_iff`, `Json.Document.ofText?_eq_some_iff`: **a text is read as a document if and only
  if its tokens are the tokens of that document**
-/

namespace AdminQuery.Json

/-! ### The grammar -/

mutual

/-- The tokens of a document. -/
inductive Spells : List Token → Document → Prop where
  | leaf (document : Document) : Spells [.leaf document] document
  | text (s : Option String) : Spells [.text s] (.text s)
  | noItems : Spells [.openArray, .closeArray] (.array [])
  | array {ts : List Token} {items : List Document} :
    SpellsItems ts items → Spells (.openArray :: (ts ++ [.closeArray])) (.array items)
  | noMembers : Spells [.openObject, .closeObject] (.object [])
  | object {ts : List Token} {members : List (Option String × Document)} :
    SpellsMembers ts members → Spells (.openObject :: (ts ++ [.closeObject])) (.object members)

/-- The tokens of items with commas between them. -/
inductive SpellsItems : List Token → List Document → Prop where
  | single {ts : List Token} {item : Document} : Spells ts item → SpellsItems ts [item]
  | comma {front ts : List Token} {items : List Document} {item : Document} :
    SpellsItems front items → Spells ts item → SpellsItems (front ++ .comma :: ts) (items ++ [item])

/-- The tokens of members with commas between them. -/
inductive SpellsMembers : List Token → List (Option String × Document) → Prop where
  | single {ts : List Token} {key : Option String} {document : Document} :
    Spells ts document → SpellsMembers (.text key :: .colon :: ts) [(key, document)]
  | comma {front ts : List Token} {members : List (Option String × Document)} {key : Option String}
      {document : Document} : SpellsMembers front members → Spells ts document →
    SpellsMembers (front ++ .comma :: .text key :: .colon :: ts) (members ++ [(key, document)])

end

/-! ### What the grammar spells is read -/

/-- A document starts with no end of an array, so the first item of an array is read as any other. -/
theorem run_firstItem_of_spells {ts : List Token} {document : Document} (h : Spells ts document)
    (outer : List Frame) (rest : List Token) :
    Reading.run (.firstItem outer) (ts ++ rest) = Reading.run (.value (.array [] :: outer)) (ts ++ rest) := by
  cases h <;> rfl

mutual

/-- **The tokens of a document deliver it to the containers around it.** -/
theorem run_of_spells : ∀ {ts : List Token} {document : Document}, Spells ts document →
    ∀ (outer : List Frame) (rest : List Token),
      Reading.run (.value outer) (ts ++ rest) = Reading.run (Reading.deliver document outer) rest
  | _, _, .leaf _, _, _ => rfl
  | _, _, .text _, _, _ => rfl
  | _, _, .noItems, _, _ => rfl
  | _, _, @Spells.array ts items h, outer, rest => by
    show Reading.run (.firstItem outer) (ts ++ [.closeArray] ++ rest) = _
    rw [List.append_assoc, run_of_spellsItems h]
    show Reading.run (Reading.deliver (.array items.reverse.reverse) outer) rest = _
    rw [List.reverse_reverse]
  | _, _, .noMembers, _, _ => rfl
  | _, _, @Spells.object ts members h, outer, rest => by
    show Reading.run (.firstKey outer) (ts ++ [.closeObject] ++ rest) = _
    rw [List.append_assoc, run_of_spellsMembers h]
    show Reading.run (Reading.deliver (.object members.reverse.reverse) outer) rest = _
    rw [List.reverse_reverse]

theorem run_of_spellsItems : ∀ {ts : List Token} {items : List Document}, SpellsItems ts items →
    ∀ (outer : List Frame) (rest : List Token),
      Reading.run (.firstItem outer) (ts ++ rest) = Reading.run (.afterItem items.reverse outer) rest
  | _, _, .single h, outer, rest => by
    rw [run_firstItem_of_spells h, run_of_spells h]
    rfl
  | _, _, @SpellsItems.comma front ts items item hfront h, outer, rest => by
    rw [List.append_assoc, run_of_spellsItems hfront]
    show Reading.run (.value (.array items.reverse :: outer)) (ts ++ rest) = _
    rw [run_of_spells h, List.reverse_append]
    rfl

theorem run_of_spellsMembers : ∀ {ts : List Token} {members : List (Option String × Document)},
    SpellsMembers ts members → ∀ (outer : List Frame) (rest : List Token),
      Reading.run (.firstKey outer) (ts ++ rest) = Reading.run (.afterMember members.reverse outer) rest
  | _, _, @SpellsMembers.single ts key document h, outer, rest => by
    show Reading.run (.value (.object [] key :: outer)) (ts ++ rest) = _
    rw [run_of_spells h]
    rfl
  | _, _, @SpellsMembers.comma front ts members key document hfront h, outer, rest => by
    rw [List.append_assoc, run_of_spellsMembers hfront]
    show Reading.run (.value (.object members.reverse key :: outer)) (ts ++ rest) = _
    rw [run_of_spells h, List.reverse_append]
    rfl

end

/-! ### What is read the grammar spells -/

/-- Nothing, or a list with a comma behind it. -/
inductive Leads {α : Type} (spells : List Token → List α → Prop) : List Token → List α → Prop where
  | nothing : Leads spells [] []
  | comma {ts : List Token} {entries : List α} : spells ts entries → Leads spells (ts ++ [.comma]) entries

/-- The tokens in front of a place inside open containers. -/
inductive Opens : List Frame → List Token → Prop where
  | nothing : Opens [] []
  | array {outer : List Frame} {ts front : List Token} {items : List Document} :
    Opens outer ts → Leads SpellsItems front items.reverse →
    Opens (.array items :: outer) (ts ++ .openArray :: front)
  | object {outer : List Frame} {ts front : List Token} {members : List (Option String × Document)}
      {key : Option String} : Opens outer ts → Leads SpellsMembers front members.reverse →
    Opens (.object members key :: outer) (ts ++ .openObject :: (front ++ [.text key, .colon]))

/-- The tokens that lead to a state of the reader. -/
inductive Reached : Reading → List Token → Prop where
  | value {outer : List Frame} {ts : List Token} : Opens outer ts → Reached (.value outer) ts
  | firstItem {outer : List Frame} {ts : List Token} :
    Opens outer ts → Reached (.firstItem outer) (ts ++ [.openArray])
  | afterItem {outer : List Frame} {ts us : List Token} {items : List Document} :
    Opens outer ts → SpellsItems us items.reverse → Reached (.afterItem items outer) (ts ++ .openArray :: us)
  | firstKey {outer : List Frame} {ts : List Token} :
    Opens outer ts → Reached (.firstKey outer) (ts ++ [.openObject])
  | nextKey {outer : List Frame} {ts us : List Token} {members : List (Option String × Document)} :
    Opens outer ts → SpellsMembers us members.reverse →
    Reached (.nextKey members outer) (ts ++ .openObject :: (us ++ [.comma]))
  | afterKey {outer : List Frame} {ts front : List Token} {members : List (Option String × Document)}
      {key : Option String} : Opens outer ts → Leads SpellsMembers front members.reverse →
    Reached (.afterKey members key outer) (ts ++ .openObject :: (front ++ [.text key]))
  | afterMember {outer : List Frame} {ts us : List Token} {members : List (Option String × Document)} :
    Opens outer ts → SpellsMembers us members.reverse →
    Reached (.afterMember members outer) (ts ++ .openObject :: us)
  | finished {ts : List Token} {document : Document} : Spells ts document → Reached (.finished document) ts

variable {outer : List Frame} {ts us : List Token} {document : Document}

theorem Leads.concat_item {items : List Document} (h : Leads SpellsItems ts items) (hitem : Spells us document) :
    SpellsItems (ts ++ us) (items ++ [document]) := by
  cases h with
  | nothing => exact .single hitem
  | comma hitems =>
    rw [List.append_assoc]
    exact .comma hitems hitem

theorem Leads.concat_member {members : List (Option String × Document)} {key : Option String}
    (h : Leads SpellsMembers ts members) (hvalue : Spells us document) :
    SpellsMembers (ts ++ .text key :: .colon :: us) (members ++ [(key, document)]) := by
  cases h with
  | nothing => exact .single hvalue
  | comma hmembers =>
    rw [List.append_assoc]
    exact .comma hmembers hvalue

/-- A finished document joins what the container around it holds. -/
theorem Opens.deliver (h : Opens outer ts) (hdocument : Spells us document) :
    Reached (Reading.deliver document outer) (ts ++ us) := by
  cases h with
  | nothing => exact .finished hdocument
  | array houter hlead =>
    rw [List.append_assoc]
    refine .afterItem houter ?_
    rw [List.reverse_cons]
    exact hlead.concat_item hdocument
  | object houter hlead =>
    rw [List.append_assoc, List.cons_append, List.append_assoc]
    refine .afterMember houter ?_
    rw [List.reverse_cons]
    exact hlead.concat_member hdocument

/-- A token where a value must follow is a document, or opens a container. -/
theorem Opens.startValue {token : Token} {next : Reading} (h : Opens outer ts)
    (hnext : Reading.startValue outer token = some next) : Reached next (ts ++ [token]) := by
  cases token with
  | leaf document =>
    cases hnext
    exact h.deliver (.leaf document)
  | text s =>
    cases hnext
    exact h.deliver (.text s)
  | openArray =>
    cases hnext
    exact .firstItem h
  | openObject =>
    cases hnext
    exact .firstKey h
  | closeArray | closeObject | colon | comma | invalid => cases hnext

/-- **A token leads on to a state that says what was read.** -/
theorem Reached.step {reading next : Reading} {token : Token} (h : Reached reading ts)
    (hnext : reading.step token = some next) : Reached next (ts ++ [token]) := by
  cases h with
  | value houter => exact houter.startValue hnext
  | firstItem houter =>
    rw [List.append_assoc]
    have hopen : Opens (.array [] :: _) (_ ++ [.openArray]) := .array houter .nothing
    cases token with
    | closeArray =>
      cases hnext
      exact houter.deliver .noItems
    | openArray | openObject | closeObject | colon | comma | leaf | text | invalid =>
      rw [← List.append_assoc]
      exact hopen.startValue hnext
  | afterItem houter hitems =>
    rw [List.append_assoc]
    cases token with
    | comma =>
      cases hnext
      exact .value (.array houter (.comma hitems))
    | closeArray =>
      cases hnext
      exact houter.deliver (.array hitems)
    | openArray | openObject | closeObject | colon | leaf | text | invalid => cases hnext
  | firstKey houter =>
    rw [List.append_assoc]
    cases token with
    | closeObject =>
      cases hnext
      exact houter.deliver .noMembers
    | text key =>
      cases hnext
      exact .afterKey houter .nothing
    | openArray | closeArray | openObject | colon | comma | leaf | invalid => cases hnext
  | nextKey houter hmembers =>
    rw [List.append_assoc]
    cases token with
    | text key =>
      cases hnext
      exact .afterKey houter (.comma hmembers)
    | openArray | closeArray | openObject | closeObject | colon | comma | leaf | invalid => cases hnext
  | @afterKey outer ts front members key houter hlead =>
    cases token with
    | colon =>
      cases hnext
      have hopen : Opens (.object members key :: outer) _ := .object houter hlead
      simpa using Reached.value hopen
    | openArray | closeArray | openObject | closeObject | comma | leaf | text | invalid => cases hnext
  | afterMember houter hmembers =>
    rw [List.append_assoc]
    cases token with
    | comma =>
      cases hnext
      exact .nextKey houter hmembers
    | closeObject =>
      cases hnext
      exact houter.deliver (.object hmembers)
    | openArray | closeArray | openObject | colon | leaf | text | invalid => cases hnext
  | finished => cases hnext

/-- **A run ends behind a document that the tokens so far spell.**  By induction on the tokens still to be read. -/
theorem Reached.run {reading : Reading} {rest : List Token} (h : Reached reading ts)
    (hrun : Reading.run reading us = some (document, rest)) :
    ∃ front, us = front ++ rest ∧ Spells (ts ++ front) document := by
  fun_induction Reading.run reading us generalizing ts with
  | case1 =>
    cases hrun
    cases h with
    | finished hdocument => exact ⟨[], rfl, by rwa [List.append_nil]⟩
  | case2 => cases hrun
  | case3 reading token us _ next hnext ih =>
    obtain ⟨front, rfl, hfront⟩ := ih (h.step hnext) hrun
    exact ⟨token :: front, rfl, by rwa [List.append_assoc] at hfront⟩
  | case4 => cases hrun

/-! ### Texts -/

/-- **A document is read off the tokens of a text if and only if they start with its own.** -/
theorem Document.first?_eq_some_iff {text : String} {rest : List Token} :
    first? text = some (document, rest) ↔ ∃ front, tokens text.toList = front ++ rest ∧ Spells front document := by
  constructor
  · intro h
    exact (Reached.value .nothing).run h
  · rintro ⟨front, htokens, hspells⟩
    rw [first?, htokens, run_of_spells hspells, Reading.deliver, Reading.run]

/-- **A text is a document if and only if its tokens are those of the document.** -/
theorem Document.ofText?_eq_some_iff {text : String} :
    ofText? text = some document ↔ Spells (tokens text.toList) document := by
  have hfirst : ofText? text = some document ↔ first? text = some (document, []) := by
    rw [ofText?]
    constructor
    · intro h
      split at h
      · rename_i hfirst
        cases h
        exact hfirst
      · cases h
    · intro h
      rw [h]
  rw [hfirst, first?_eq_some_iff]
  simp

end AdminQuery.Json
