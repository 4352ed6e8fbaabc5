import AdminQuery.Proofs.DottedKeys
import AdminQuery.Proofs.FilterMapDecoding
import AdminQuery.Proofs.IntegerConditions
import AdminQuery.Proofs.IntegerLiterals

/-!
# Unquoted scalars

The value of a filter entry may come as a number, a truth value or `null`, and means what its text means.

* `FilterEntry.Quotes`, `FilterEntry.Requoted`: a scalar in quotes, and an entry whose value is put in quotes
* `FilterEntry.LeavesOut`: an entry without the `null` in its value slot
* `FilterEntry.ofValue_of_requoted`, `FilterEntry.reads_of_leavesOut`: **either is read as before**
* `FilterMap.InEntries`: filter maps that differ in their entries at most
* `FilterEntry.Reads.text_of_holds`: the value of an entry is the text of what its slot holds
* `Environment.keyCondition_of_columnSlot`: the condition of one group of a column
* `Environment.keyCondition_of_wholeNumber`: **a whole number reaches the binding as it is**
* `FilterMap.ofText_of_respelled`: **texts that differ in such spellings decode to the same map**
* `unquoted_scalars_mean_their_text`: **the same filter map, and every whole number of 64 bits unchanged in the
  binding**
-/

namespace AdminQuery

namespace FilterEntry

open Json (Value)

/-! ### Scalars and their texts -/

/-- A value for the value slot, as it is or put in quotes. -/
inductive Quotes : Value → Value → Prop where
  | same (value : Value) : Quotes value value
  | integer (n : Int) : Quotes (.number (.integer n)) (.text (toString n))
  | boolean (b : Bool) : Quotes (.boolean b) (.text (if b then "true" else "false"))
  | null : Quotes .null (.text "")

theorem textOfValue_of_quotes {value value' : Value} (h : Quotes value value') :
    textOfValue value' = textOfValue value := by
  cases h <;> rfl

/-- An entry whose value slot holds the same, as it is or put in quotes. -/
inductive Requoted : Value → Value → Prop where
  | object {members members' : List (String × Value)} :
    List.Forall₂ (fun member member' => member.1 = member'.1 ∧
      (member.2 = member'.2 ∨ member.1 ∈ ["v", "value"] ∧ Quotes member.2 member'.2)) members members' →
    Requoted (.object members) (.object members')
  | array {value value' : Value} (operator : Value) (rest : List Value) : Quotes value value' →
    Requoted (.array (operator :: value :: rest)) (.array (operator :: value' :: rest))
  | same (entry : Value) : Requoted entry entry

/-- An entry whose value slot holds `null`, and the entry with nothing there. -/
inductive LeavesOut : Value → Value → Prop where
  | member {before after : List (String × Value)} {key : String} : key ∈ ["v", "value"] →
    LeavesOut (.object (before ++ (key, .null) :: after)) (.object (before ++ after))
  | item (operator : Value) : LeavesOut (.array [operator, .null]) (.array [operator])

theorem takeMember_of_quotes {member member' : String × Value} (hkey : member.1 = member'.1)
    (h : member.2 = member'.2 ∨ member.1 ∈ ["v", "value"] ∧ Quotes member.2 member'.2) (slots : Slots) :
    takeMember slots member' = takeMember slots member := by
  rcases h with h | ⟨hvalue, h⟩
  · rw [Prod.ext hkey h]
  · rw [takeMember_of_value hvalue, takeMember_of_value (hkey ▸ hvalue), takeSlot, takeSlot,
      textOfValue_of_quotes h]

/-- **An entry is read alike with quotes around its value and without**, and refused for the same reason. -/
theorem ofValue_of_requoted {entry entry' : Value} (h : Requoted entry entry') :
    ofValue entry' = ofValue entry := by
  cases h with
  | @object members members' h =>
    have hfold (slots : Slots) : members'.foldlM takeMember slots = members.foldlM takeMember slots := by
      induction h generalizing slots with
      | nil => rfl
      | cons hmember _ ih =>
        rw [List.foldlM_cons, List.foldlM_cons, takeMember_of_quotes hmember.1 hmember.2]
        simp only [ih]
    show ofMembers members' = ofMembers members
    rw [ofMembers, ofMembers, hfold]
  | array operator rest h =>
    simp only [ofValue, ofItems, textOfValue_of_quotes h]
  | same => rfl

/-- The one member that fills a slot is the only one under its names. -/
theorem GivenAtMostOnce.of_mem {α : Type} {R : Value → α → Prop} {given : List (String × Value)}
    {slot : Option α} (h : GivenAtMostOnce R given slot) {member : String × Value} (hmember : member ∈ given) :
    given = [member] ∧ ∃ a, R member.2 a ∧ slot = some a := by
  cases h with
  | missing => cases hmember
  | given ha =>
    rw [List.mem_singleton.1 hmember]
    exact ⟨rfl, _, ha, rfl⟩

theorem membersUnder_append_cons_of_mem {names : List String} {member : String × Value}
    (h : member.1 ∈ names) (before after : List (String × Value)) :
    membersUnder names (before ++ member :: after) =
      membersUnder names before ++ member :: membersUnder names after := by
  simp [membersUnder, h]

theorem membersUnder_append_cons_of_not_mem {names : List String} {member : String × Value}
    (h : member.1 ∉ names) (before after : List (String × Value)) :
    membersUnder names (before ++ member :: after) = membersUnder names (before ++ after) := by
  simp [membersUnder, h]

/-- **An entry is read alike with `null` for its value and without a value.** -/
theorem reads_of_leavesOut {given given' : Value} {entry : FilterEntry} (h : LeavesOut given given')
    (hreads : Reads given entry) : Reads given' entry := by
  cases h with
  | @member before after key hkey =>
    cases hreads with
    | @object _ operator value hoperator hvalue =>
      have hother : key ∉ ["o", "operator"] := fun hmem =>
        @not_mem_valueKeys (key, .null) hmem hkey
      rw [membersUnder_append_cons_of_not_mem hother] at hoperator
      rw [membersUnder_append_cons_of_mem hkey] at hvalue
      obtain ⟨honly, text, htext, rfl⟩ := hvalue.of_mem (List.mem_append_right _ List.mem_cons_self)
      have hlength := congrArg List.length honly
      rw [List.length_append, List.length_cons, List.length_singleton] at hlength
      have hnone : membersUnder ["v", "value"] (before ++ after) = [] := by
        rw [membersUnder, List.filter_append, ← membersUnder, ← membersUnder, List.append_eq_nil_iff]
        exact ⟨List.length_eq_zero_iff.1 (by omega), List.length_eq_zero_iff.1 (by omega)⟩
      cases htext with
      | null => exact @Reads.object _ operator none hoperator (hnone ▸ .missing)
  | item operator =>
    cases hreads with
    | fullArray hoperator hvalue =>
      cases hvalue
      exact .operatorArray hoperator

/-- An entry with quotes around its value, or without the `null` there. -/
def Respelled (given given' : Value) : Prop :=
  Requoted given given' ∨ LeavesOut given given'

theorem reads_of_respelled {given given' : Value} {entry : FilterEntry} (h : Respelled given given')
    (hreads : Reads given entry) : Reads given' entry := by
  rcases h with h | h
  · rw [← ofValue_eq_ok_iff, ofValue_of_requoted h]
    exact ofValue_eq_ok_iff.2 hreads
  · exact reads_of_leavesOut h hreads

/-! ### The value of an entry -/

/-- What the value slot of an entry holds. -/
inductive HoldsValue : Value → Value → Prop where
  | member {members : List (String × Value)} {key : String} {value : Value} : (key, value) ∈ members →
    key ∈ ["v", "value"] → HoldsValue (.object members) value
  | item {operator value : Value} {rest : List Value} : HoldsValue (.array (operator :: value :: rest)) value

/-- The value of an entry is the text of what its slot holds. -/
theorem Reads.text_of_holds {given value : Value} {entry : FilterEntry} (h : Reads given entry)
    (hholds : HoldsValue given value) : ReadsText value entry.value := by
  cases hholds with
  | @member members key _ hmember hkey =>
    cases h with
    | object _ hvalue =>
      obtain ⟨-, text, htext, rfl⟩ :=
        hvalue.of_mem (List.mem_filter.2 ⟨hmember, decide_eq_true hkey⟩)
      exact htext
  | item =>
    cases h with
    | fullArray _ hvalue => exact hvalue

end FilterEntry

namespace FilterMap

open Json (Value)

/-! ### Filter maps that differ in their entries -/

/-- Objects with the same keys, one after the other, whose members are related, or the same value. -/
inductive InObject (R : Value → Value → Prop) : Value → Value → Prop where
  | object {members members' : List (String × Value)} :
    List.Forall₂ (fun member member' => member.1 = member'.1 ∧ R member.2 member'.2) members members' →
    InObject R (.object members) (.object members')
  | same (value : Value) : InObject R value value

theorem InObject.imp {R S : Value → Value → Prop} (hS : ∀ value value', R value value' → S value value')
    {value value' : Value} (h : InObject R value value') : InObject S value value' := by
  cases h with
  | object h => exact .object (h.imp fun _ _ hmember => ⟨hmember.1, hS _ _ hmember.2⟩)
  | same => exact .same value

/-- Filter maps with the same keys and groups, whose entries are related. -/
def InEntries (R : Value → Value → Prop) : Value → Value → Prop :=
  InObject (InObject R)

section Entries

variable {member member' : String × Value}

theorem readGroup_of_requoted (h : member.1 = member'.1 ∧ FilterEntry.Requoted member.2 member'.2) :
    readGroup member' = readGroup member := by
  rw [readGroup, readGroup, h.1, FilterEntry.ofValue_of_requoted h.2]

theorem readField_of_requoted (h : member.1 = member'.1 ∧ InObject FilterEntry.Requoted member.2 member'.2) :
    readField member' = readField member := by
  obtain ⟨name, value⟩ := member
  obtain ⟨name', value'⟩ := member'
  obtain ⟨hname, h⟩ := h
  obtain rfl : name = name' := hname
  cases h with
  | @object groups groups' h =>
    have hread : groups.mapM readGroup = groups'.mapM readGroup := by
      refine Fallible.mapM_congr ?_ h
      intro group group' hgroup
      exact (readGroup_of_requoted hgroup).symm
    simp only [readField, hread]
  | same => rfl

/-- **A filter map is the same with quotes around the values of its entries and without**, or the error is. -/
theorem ofValue_of_requoted {value value' : Value} (h : InEntries FilterEntry.Requoted value value') :
    ofValue value' = ofValue value := by
  cases h with
  | @object members members' h =>
    have hread : members.mapM readField = members'.mapM readField := by
      refine Fallible.mapM_congr ?_ h
      intro member member' hmember
      exact (readField_of_requoted hmember).symm
    simp only [ofValue, ofMembers_eq, hread]
  | same => rfl

theorem readsField_of_respelled
    (h : member.1 = member'.1 ∧ InObject FilterEntry.Respelled member.2 member'.2) {field : FieldGroups}
    (hfield : ReadsField member field) : ReadsField member' field := by
  obtain ⟨groups, hgroups, hkey, hentries⟩ := hfield
  obtain ⟨hname, h⟩ := h
  rw [hname] at hkey
  generalize hvalue : member.2 = value at h
  generalize hvalue' : member'.2 = value' at h
  cases h with
  | object h =>
    obtain rfl := Value.object.inj (hvalue.symm.trans hgroups)
    refine ⟨_, hvalue', hkey, forall₂_of_forall₂ ?_ h hentries⟩
    intro group group' entry hgroup hentry
    exact ⟨hentry.1.trans hgroup.1, FilterEntry.reads_of_respelled hgroup.2 hentry.2⟩
  | same => exact ⟨groups, hvalue'.trans (hvalue.symm.trans hgroups), hkey, hentries⟩

/-- **A filter map stays the same with quotes around the values of its entries, or without the `null` there.** -/
theorem ofValue_of_respelled {value value' : Value} (h : InEntries FilterEntry.Respelled value value')
    {filters : FilterMap} (hfilters : ofValue value = .ok filters) : ofValue value' = .ok filters := by
  cases h with
  | @object members members' h =>
    simp only [ofValue, ofMembers_eq, Fallible.map_eq_ok_iff, Fallible.mapM_eq_ok_iff,
      readField_eq_ok_iff] at hfilters ⊢
    obtain ⟨fields, hfields, hpush⟩ := hfilters
    refine ⟨fields, forall₂_of_forall₂ ?_ h hfields, hpush⟩
    intro member member' field hmember hfield
    exact readsField_of_respelled hmember hfield
  | same => exact hfilters

end Entries

end FilterMap

/-! ### Groups of columns -/

namespace Environment

variable {env : Environment} {record : RecordType} {key : String} {slot : Slot}

/-- One group of a column gives the condition of its entry, if that has one. -/
theorem keyCondition_of_columnSlot (h : env.columnSlot? record key = some slot) (group : String)
    (entry : FilterEntry) (now : Instant) :
    env.keyCondition record ⟨key, [(group, entry)]⟩ now =
      .ok ((entry.condition? env.config.patternStyle slot.column slot.type now).getD .always) := by
  have htarget : env.filterTarget record key = .ok [slot] := by rw [filterTarget, h]
  rw [keyCondition, fieldAtoms_of_filterTarget htarget, List.flatMap_singleton, groupAtoms_singleton,
    FilterEntry.condition?]
  cases entry.atom? env.config.patternStyle slot.column slot.type now with
  | none => exact congrArg Except.ok (Condition.join_nil " OR ")
  | some atom =>
    exact congrArg Except.ok (Condition.join_singleton (by simp [Condition.not_isAlways_condition]))

/-- **A whole number reaches the binding as it is.**  A group of a column of whole numbers that holds a number
and no control token tests for exactly this number; beyond 64 bits with a sign, the group can be left out. -/
theorem keyCondition_of_wholeNumber {column group : String} {now : Instant} {given : Json.Value}
    {entry : FilterEntry} {n : Int} (hslot : env.columnSlot? record key = some ⟨column, .integer⟩)
    (hreads : FilterEntry.Reads given entry)
    (hholds : FilterEntry.HoldsValue given (.number (.integer n)))
    (hoperator : ∀ token ∈ entry.operator, ControlToken.ofText? token = none) :
    (Number.minInteger ≤ n → n ≤ Number.maxInteger →
      env.keyCondition record ⟨key, [(group, entry)]⟩ now = .ok (.equals column (.integer n))) ∧
    (Number.maxInteger < n →
      env.keyCondition record ⟨key, [(group, entry)]⟩ now = .ok .always ∧
      ∀ (front back : List FieldGroups) (before after : List (String × FilterEntry)),
        env.filterCondition record ⟨front ++ ⟨key, before ++ (group, entry) :: after⟩ :: back⟩ now =
          env.filterCondition record ⟨front ++ ⟨key, before ++ after⟩ :: back⟩ now) := by
  obtain ⟨operator, text⟩ := entry
  obtain rfl : text = toString n := by
    have htext := hreads.text_of_holds hholds
    cases htext
    rfl
  have hkey := keyCondition_of_columnSlot hslot group ⟨operator, toString n⟩ now
  rw [condition?_of_toString _ column now hoperator, checked?] at hkey
  constructor
  · intro hlow hhigh
    rw [hkey, if_pos ⟨hlow, hhigh⟩]
    rfl
  · intro hhigh
    rw [if_neg fun hrange => absurd hrange.2 (Int.not_le.2 hhigh)] at hkey
    exact ⟨hkey, filterCondition_erase_group hkey⟩

end Environment

/-- **Texts of filter maps that differ in the quotes around values, or leave out values that are `null`, decode
to the same map.** -/
theorem FilterMap.ofText_of_respelled {text text' : String} {value value' : Json.Value}
    (htext : Json.Value.ofText? text = some value) (htext' : Json.Value.ofText? text' = some value') :
    (InEntries FilterEntry.Requoted value value' → ofText text' = ofText text) ∧
    (InEntries FilterEntry.Respelled value value' → ∀ filters,
      ofText text = .ok filters → ofText text' = .ok filters) := by
  rw [ofText_eq_ofValue htext, ofText_eq_ofValue htext']
  exact ⟨ofValue_of_requoted, fun h _ => ofValue_of_respelled h⟩

/-- **Unquoted scalars mean their text, and whole numbers stay what they are.**  Two texts of filter maps that
differ in the quotes around values decode to the same map, or fail alike; one that leaves out values that are
`null` decodes to the map of the other.  The numbers that are read as whole are those of 64 bits, with or without a
sign, in decimal.  A group of a column of whole numbers that holds such a number and no control token tests for
exactly this number; if only 64 bits without a sign hold it, the group can be left out. -/
theorem unquoted_scalars_mean_their_text :
    (∀ (text text' : String) (value value' : Json.Value),
      Json.Value.ofText? text = some value → Json.Value.ofText? text' = some value' →
      (FilterMap.InEntries FilterEntry.Requoted value value' →
        FilterMap.ofText text' = FilterMap.ofText text) ∧
      (FilterMap.InEntries FilterEntry.Respelled value value' → ∀ filters,
        FilterMap.ofText text = .ok filters → FilterMap.ofText text' = .ok filters)) ∧
    (∀ (literal : List Char) (n : Int),
      Json.numberToken literal = .leaf (.number (some (.integer n))) ↔
        Json.InWord n ∧ literal = (toString n).toList) ∧
    ∀ (env : Environment) (record : RecordType) (key column : String) (group : String) (now : Instant),
      env.columnSlot? record key = some ⟨column, .integer⟩ →
      ∀ (given : Json.Value) (entry : FilterEntry) (n : Int), FilterEntry.Reads given entry →
      FilterEntry.HoldsValue given (.number (.integer n)) →
      (∀ token ∈ entry.operator, ControlToken.ofText? token = none) →
        (Number.minInteger ≤ n → n ≤ Number.maxInteger →
          env.keyCondition record ⟨key, [(group, entry)]⟩ now = .ok (.equals column (.integer n))) ∧
        (Number.maxInteger < n →
          env.keyCondition record ⟨key, [(group, entry)]⟩ now = .ok .always ∧
          ∀ (front back : List FieldGroups) (before after : List (String × FilterEntry)),
            env.filterCondition record ⟨front ++ ⟨key, before ++ (group, entry) :: after⟩ :: back⟩ now =
              env.filterCondition record ⟨front ++ ⟨key, before ++ after⟩ :: back⟩ now) :=
  ⟨fun _ _ _ _ => FilterMap.ofText_of_respelled, fun _ _ => Json.numberToken_eq_integer_iff,
    fun _ _ _ _ _ _ hslot _ _ _ => Environment.keyCondition_of_wholeNumber hslot⟩

namespace League

/-- Teams by their number: the greatest of 64 bits with a sign, and the greatest without one. -/
def numbers (greatest beyond : Json.Value) : String × Json.Value :=
  ("id", .object [("0", .object [("o", .text "today"), ("v", greatest)]), ("1", .array [.null, beyond])])

/-- Teams by their name, with members of the second group behind the value that it might hold. -/
def names (flag : Json.Value) (members : List (String × Json.Value)) : String × Json.Value :=
  ("name", .object [("0", .object [("value", flag)]), ("1", .object members)])

/-- Filters of teams with unquoted values. -/
def unquoted : Json.Value :=
  .object [numbers (.number (.integer 9223372036854775807)) (.number (.integer 18446744073709551615)),
    names (.boolean true) [("v", .null), ("o", .text "is")]]

/-- The same filters with quotes. -/
def requoted : Json.Value :=
  .object [numbers (.text "9223372036854775807") (.text "18446744073709551615"),
    names (.text "true") [("v", .text ""), ("o", .text "is")]]

/-- The same filters with quotes, and without the value that is `null`. -/
def shortened : Json.Value :=
  .object [numbers (.text "9223372036854775807") (.text "18446744073709551615"),
    names (.text "true") [("o", .text "is")]]

/-- What all of them decode to. -/
def meant : FilterMap :=
  ⟨[⟨"id", [("0", ⟨some "today", "9223372036854775807"⟩), ("1", ⟨none, "18446744073709551615"⟩)]⟩,
    ⟨"name", [("0", ⟨none, "true"⟩), ("1", ⟨some "is", ""⟩)]⟩]⟩

/-- The printed filters are read back as they are. -/
theorem ofText?_render_filters : ∀ value ∈ [unquoted, requoted, shortened],
    Json.Value.ofText? value.render = some value := by
  have hexact : ∀ value ∈ [unquoted, requoted, shortened], value.Exact := by
    simp [unquoted, requoted, shortened, numbers, names, Json.Value.exact_object_iff,
      Json.Value.exact_array_iff, Json.Value.exact_integer_iff, Json.Value.Exact.text,
      Json.Value.Exact.boolean, Json.Value.Exact.null, Json.InWord, Number.minInteger,
      Json.NumberLiteral.maxSignificand]
  intro value hvalue
  rw [Json.Value.ofText?, (hexact value hvalue).ofText?_render]
  revert value
  simp only [List.forall_mem_cons]
  exact ⟨rfl, rfl, rfl, List.forall_mem_nil _⟩

/-- The filters by number and by the first group of names, with quotes. -/
theorem requoted_groups :
    FilterMap.InObject FilterEntry.Requoted
      (numbers (.number (.integer 9223372036854775807)) (.number (.integer 18446744073709551615))).2
      (numbers (.text "9223372036854775807") (.text "18446744073709551615")).2 ∧
    FilterEntry.Requoted (.object [("value", .boolean true)]) (.object [("value", .text "true")]) := by
  constructor
  · refine .object (.cons ⟨rfl, .object ?_⟩ (.cons ⟨rfl, .array _ _ (.integer _)⟩ .nil))
    exact .cons ⟨rfl, .inl rfl⟩ (.cons ⟨rfl, .inr ⟨by decide, .integer _⟩⟩ .nil)
  · exact .object (.cons ⟨rfl, .inr ⟨by decide, .boolean true⟩⟩ .nil)

end League

open League in
/-- The greatest number of 64 bits with a sign is tested for, under an operator for dates; the greatest without a
sign is not, nor is it taken for a negative one. -/
theorem unquoted_scalars_mean_their_text_league :
    (∀ value ∈ [unquoted, requoted, shortened], Json.Value.ofText? value.render = some value) ∧
    (∀ value ∈ [unquoted, requoted, shortened], FilterMap.ofText value.render = .ok meant) ∧
    keyed ⟨"id", [("0", ⟨some "today", "9223372036854775807"⟩)]⟩ =
      .ok ⟨"(teams.id = ?)", [.integer 9223372036854775807]⟩ ∧
    keyed ⟨"id", [("1", ⟨none, "18446744073709551615"⟩)]⟩ = .ok .always := by
  have htexts := ofText?_render_filters
  have hunquoted := htexts unquoted (by simp)
  obtain ⟨hnumbers, hfirst⟩ := requoted_groups
  obtain ⟨hspelled, -, hcolumn⟩ := unquoted_scalars_mean_their_text
  obtain ⟨hrequoted, -⟩ := hspelled _ _ _ _ hunquoted (htexts requoted (by simp))
  obtain ⟨-, hshortened⟩ := hspelled _ _ _ _ hunquoted (htexts shortened (by simp))
  have hmeant : FilterMap.ofText unquoted.render = .ok meant := by
    rw [FilterMap.ofText_eq_ofValue hunquoted]
    rfl
  have hquotes : FilterMap.ofText requoted.render = FilterMap.ofText unquoted.render := by
    refine hrequoted (.object (.cons ⟨rfl, hnumbers⟩ (.cons ⟨rfl, .object ?_⟩ .nil)))
    refine .cons ⟨rfl, hfirst⟩ (.cons ⟨rfl, .object ?_⟩ .nil)
    exact .cons ⟨rfl, .inr ⟨by decide, .null⟩⟩ (.cons ⟨rfl, .inl rfl⟩ .nil)
  have hshorter : FilterMap.ofText shortened.render = .ok meant := by
    refine hshortened (.object (.cons ⟨rfl, hnumbers.imp fun _ _ => .inl⟩ (.cons ⟨rfl, .object ?_⟩ .nil)))
      meant hmeant
    exact .cons ⟨rfl, .inl hfirst⟩
      (.cons ⟨rfl, .inr (@FilterEntry.LeavesOut.member [] _ "v" (by decide))⟩ .nil)
  have hslot : (catalog.environment .default).columnSlot? team.recordType "id" =
      some ⟨"teams.id", .integer⟩ := by
    decide +kernel
  have hgreatest := hcolumn _ _ _ _ "0" ⟨0, 0⟩ hslot
    (.object [("o", .text "today"), ("v", .number (.integer 9223372036854775807))])
    ⟨some "today", "9223372036854775807"⟩ 9223372036854775807
    (@FilterEntry.Reads.object _ (some (some "today")) (some "9223372036854775807")
      (.given (.text "today")) (.given (.number (.integer 9223372036854775807))))
    (.member (List.mem_cons_of_mem _ List.mem_cons_self) (by decide)) (by decide)
  have hbeyond := hcolumn _ _ _ _ "1" ⟨0, 0⟩ hslot
    (.array [.null, .number (.integer 18446744073709551615)]) ⟨none, "18446744073709551615"⟩
    18446744073709551615 (.fullArray .null (.number (.integer 18446744073709551615))) .item (by decide)
  refine ⟨htexts, ?_, hgreatest.1 (by decide) (by decide), (hbeyond.2 (by decide)).1⟩
  simp only [List.forall_mem_cons]
  exact ⟨hmeant, hquotes.trans hmeant, hshorter, List.forall_mem_nil _⟩

end AdminQuery
