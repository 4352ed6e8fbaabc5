import AdminQuery.Filter.FilterMapText
import AdminQuery.Proofs.Fallible
import Mathlib.Data.List.Induction

/-!
# What filter entries hold

A filter entry is an object with a slot for the operator and one for the value, each under two names, or an
array of the two.

* `FilterEntry.ReadsOperator`, `FilterEntry.ReadsText`: what a slot may hold, and what it gives
* `FilterEntry.GivenAtMostOnce`: a slot that no two members fill
* `FilterEntry.Reads`: **what an entry may be, and what it gives**
* `FilterEntry.Fails`: **what an entry may not be, and the error it gives**
* `FilterEntry.ofValue_eq_ok_iff`, `FilterEntry.ofValue_eq_error_iff`: entries are read that way
-/

namespace AdminQuery.FilterEntry

open Json (Value)

/-! ### Slots -/

/-- An operator is a text, or there is none. -/
inductive ReadsOperator : Value → Option String → Prop where
  | null : ReadsOperator .null none
  | text (s : String) : ReadsOperator (.text s) (some s)

/-- A value is a text; numbers and truth values may come unquoted, and `null` is the empty text. -/
inductive ReadsText : Value → String → Prop where
  | null : ReadsText .null ""
  | text (s : String) : ReadsText (.text s) s
  | number (n : Json.Number) : ReadsText (.number n) n.render
  | boolean (b : Bool) : ReadsText (.boolean b) (if b then "true" else "false")

theorem operatorOfValue_eq_ok_iff {value : Value} {operator : Option String} :
    operatorOfValue value = .ok operator ↔ ReadsOperator value operator := by
  constructor
  · intro h
    cases value <;> cases h
    · exact .null
    · exact .text _
  · rintro (_ | s) <;> rfl

theorem textOfValue_eq_ok_iff {value : Value} {text : String} :
    textOfValue value = .ok text ↔ ReadsText value text := by
  constructor
  · intro h
    cases value <;> cases h
    · exact .null
    · exact .boolean _
    · exact .number _
    · exact .text _
  · rintro (_ | s | n | b) <;> rfl

theorem ReadsOperator.unique (value : Value) (operator other : Option String)
    (h : ReadsOperator value operator) (h' : ReadsOperator value other) : operator = other :=
  Except.ok.inj ((operatorOfValue_eq_ok_iff.2 h).symm.trans (operatorOfValue_eq_ok_iff.2 h'))

theorem ReadsText.unique (value : Value) (text other : String) (h : ReadsText value text)
    (h' : ReadsText value other) : text = other :=
  Except.ok.inj ((textOfValue_eq_ok_iff.2 h).symm.trans (textOfValue_eq_ok_iff.2 h'))

/-- What is no operator is refused. -/
theorem operatorOfValue_eq_error_iff {value : Value} {e : FilterError} :
    operatorOfValue value = .error e ↔
      (∀ operator, ¬ReadsOperator value operator) ∧ e = .malformedEntry := by
  simp only [← operatorOfValue_eq_ok_iff]
  cases value <;> simp [operatorOfValue, eq_comm]

/-- What is no value is refused. -/
theorem textOfValue_eq_error_iff {value : Value} {e : FilterError} :
    textOfValue value = .error e ↔ (∀ text, ¬ReadsText value text) ∧ e = .valueNotScalar value := by
  simp only [← textOfValue_eq_ok_iff]
  cases value <;> simp [textOfValue, eq_comm]

section GivenAtMostOnce

variable {α : Type} {R : Value → α → Prop} {given : List (String × Value)} {member : String × Value}
  {slot slot' : Option α}

/-- A slot with the members that fill it: none, or one with what it gives. -/
inductive GivenAtMostOnce (R : Value → α → Prop) : List (String × Value) → Option α → Prop where
  | missing : GivenAtMostOnce R [] none
  | given {member : String × Value} {a : α} : R member.2 a → GivenAtMostOnce R [member] (some a)

/-- Before the last member that fills a slot there is none. -/
theorem GivenAtMostOnce.eq_nil_of_concat (h : GivenAtMostOnce R (given ++ [member]) slot) :
    given = [] := by
  generalize hgiven : given ++ [member] = all at h
  cases h with
  | missing => simp at hgiven
  | given _ =>
    have hlength := congrArg List.length hgiven
    simpa using hlength

theorem GivenAtMostOnce.unique (hR : ∀ value a b, R value a → R value b → a = b)
    (h : GivenAtMostOnce R given slot) (h' : GivenAtMostOnce R given slot') : slot = slot' := by
  cases h with
  | missing =>
    cases h'
    rfl
  | given ha =>
    cases h' with
    | given hb => rw [hR _ _ _ ha hb]

/-- A slot is filled by one member, from what the member holds. -/
def takeSlot (read : Value → Except FilterError α) (slot : Option α) (value : Value) :
    Except FilterError (Option α) :=
  if slot.isSome then .error .malformedEntry else (read value).map some

theorem takeSlot_eq_ok_iff {read : Value → Except FilterError α}
    (hread : ∀ {value a}, read value = .ok a ↔ R value a) (h : GivenAtMostOnce R given slot) :
    takeSlot read slot member.2 = .ok slot' ↔ GivenAtMostOnce R (given ++ [member]) slot' := by
  rw [takeSlot]
  cases h with
  | missing =>
    rw [if_neg (by simp), Fallible.map_eq_ok_iff, List.nil_append]
    constructor
    · rintro ⟨a, ha, rfl⟩
      exact .given (hread.1 ha)
    · rintro (_ | ha)
      exact ⟨_, hread.2 ha, rfl⟩
  | given _ =>
    constructor
    · rintro ⟨⟩
    · intro h
      cases h.eq_nil_of_concat

theorem takeSlot_eq_error_iff {read : Value → Except FilterError α} {value : Value} {e : FilterError}
    (h : GivenAtMostOnce R given slot) : takeSlot read slot value = .error e ↔
      (given ≠ [] ∧ e = .malformedEntry) ∨ (given = [] ∧ read value = .error e) := by
  rw [takeSlot]
  cases h with
  | missing => simp [Fallible.map_eq_error_iff]
  | given _ => simp [eq_comm]

end GivenAtMostOnce

/-! ### Members of an object -/

/-- The members under one of the names of a slot. -/
def membersUnder (names : List String) (members : List (String × Value)) : List (String × Value) :=
  members.filter fun member => member.1 ∈ names

theorem membersUnder_concat_of_mem {names : List String} {member : String × Value}
    (h : member.1 ∈ names) (members : List (String × Value)) :
    membersUnder names (members ++ [member]) = membersUnder names members ++ [member] := by
  simp [membersUnder, h]

theorem membersUnder_concat_of_not_mem {names : List String} {member : String × Value}
    (h : member.1 ∉ names) (members : List (String × Value)) :
    membersUnder names (members ++ [member]) = membersUnder names members := by
  simp [membersUnder, h]

section Slot

variable {α : Type} {R : Value → α → Prop} {names : List String} {before : List (String × Value)}
  {member : String × Value} {slot slot' : Option α}

/-- A member with another name leaves a slot as it is. -/
theorem GivenAtMostOnce.concat_iff (hR : ∀ value a b, R value a → R value b → a = b)
    (h : GivenAtMostOnce R (membersUnder names before) slot) (hmember : member.1 ∉ names) :
    GivenAtMostOnce R (membersUnder names (before ++ [member])) slot' ↔ slot = slot' := by
  rw [membersUnder_concat_of_not_mem hmember]
  constructor
  · exact h.unique hR
  · rintro rfl
    exact h

/-- Members that fill a slot at most once do so without the last of them. -/
theorem GivenAtMostOnce.of_concat
    (h : GivenAtMostOnce R (membersUnder names (before ++ [member])) slot) :
    ∃ slot', GivenAtMostOnce R (membersUnder names before) slot' := by
  by_cases hmember : member.1 ∈ names
  · rw [membersUnder_concat_of_mem hmember] at h
    rw [h.eq_nil_of_concat]
    exact ⟨none, .missing⟩
  · rw [membersUnder_concat_of_not_mem hmember] at h
    exact ⟨slot, h⟩

end Slot

/-- The slots after some of the members. -/
@[mk_iff]
structure Holds (members : List (String × Value)) (slots : Slots) : Prop where
  operator : GivenAtMostOnce ReadsOperator (membersUnder operatorKeys members) slots.operator
  value : GivenAtMostOnce ReadsText (membersUnder valueKeys members) slots.value

variable {before members : List (String × Value)} {member : String × Value} {slots slots' : Slots}

theorem holds_nil_iff : Holds [] slots ↔ slots = ⟨none, none⟩ := by
  constructor
  · intro h
    obtain ⟨operator, value⟩ := slots
    have hoperator : none = operator := GivenAtMostOnce.missing.unique ReadsOperator.unique h.operator
    have hvalue : none = value := GivenAtMostOnce.missing.unique ReadsText.unique h.value
    rw [hoperator, hvalue]
  · rintro rfl
    exact ⟨.missing, .missing⟩

/-- The members before one more fill the slots at most once, too. -/
theorem Holds.of_concat (h : Holds (before ++ [member]) slots) : ∃ slots, Holds before slots := by
  obtain ⟨operator, hoperator⟩ := h.operator.of_concat
  obtain ⟨value, hvalue⟩ := h.value.of_concat
  exact ⟨⟨operator, value⟩, hoperator, hvalue⟩

/-- No name is one of both slots. -/
theorem not_mem_valueKeys (h : member.1 ∈ operatorKeys) : member.1 ∉ valueKeys := by
  simp only [operatorKeys, valueKeys, List.mem_cons, List.not_mem_nil, or_false] at h ⊢
  rcases h with h | h <;> rw [h] <;> decide

theorem takeMember_of_operator (h : member.1 ∈ operatorKeys) (slots : Slots) :
    takeMember slots member =
      (takeSlot operatorOfValue slots.operator member.2).map ({ slots with operator := · }) := by
  rw [takeMember, if_pos (List.contains_iff_mem.2 h), takeSlot]
  split
  · rfl
  · cases operatorOfValue member.2 <;> rfl

theorem takeMember_of_value (h : member.1 ∈ valueKeys) (slots : Slots) :
    takeMember slots member =
      (takeSlot textOfValue slots.value member.2).map ({ slots with value := · }) := by
  have hoperator : member.1 ∉ operatorKeys := fun hkey => not_mem_valueKeys hkey h
  rw [takeMember, if_neg (mt List.contains_iff_mem.1 hoperator), if_pos (List.contains_iff_mem.2 h),
    takeSlot]
  split
  · rfl
  · cases textOfValue member.2 <;> rfl

theorem takeMember_of_other (hoperator : member.1 ∉ operatorKeys) (hvalue : member.1 ∉ valueKeys)
    (slots : Slots) : takeMember slots member = .ok slots := by
  rw [takeMember, if_neg (mt List.contains_iff_mem.1 hoperator),
    if_neg (mt List.contains_iff_mem.1 hvalue)]

/-- One more member is taken when no slot is filled twice and the member holds what its slot may hold. -/
theorem takeMember_eq_ok_iff (h : Holds before slots) :
    takeMember slots member = .ok slots' ↔ Holds (before ++ [member]) slots' := by
  rw [holds_iff]
  by_cases hoperator : member.1 ∈ operatorKeys
  · have hvalue := not_mem_valueKeys hoperator
    rw [takeMember_of_operator hoperator, Fallible.map_eq_ok_iff,
      h.value.concat_iff ReadsText.unique hvalue, membersUnder_concat_of_mem hoperator]
    simp only [takeSlot_eq_ok_iff operatorOfValue_eq_ok_iff h.operator]
    constructor
    · rintro ⟨operator, hgiven, rfl⟩
      exact ⟨hgiven, rfl⟩
    · rintro ⟨hgiven, hsame⟩
      exact ⟨slots'.operator, hgiven, by rw [hsame]⟩
  · rw [h.operator.concat_iff ReadsOperator.unique hoperator]
    by_cases hvalue : member.1 ∈ valueKeys
    · rw [takeMember_of_value hvalue, Fallible.map_eq_ok_iff, membersUnder_concat_of_mem hvalue]
      simp only [takeSlot_eq_ok_iff textOfValue_eq_ok_iff h.value]
      constructor
      · rintro ⟨value, hgiven, rfl⟩
        exact ⟨rfl, hgiven⟩
      · rintro ⟨hsame, hgiven⟩
        exact ⟨slots'.value, hgiven, by rw [hsame]⟩
    · rw [takeMember_of_other hoperator hvalue, h.value.concat_iff ReadsText.unique hvalue,
        Except.ok.injEq, Slots.mk.injEq]

/-- **The members of an object are taken when each slot is filled at most once, with what it may hold.**  By
induction on the members, from the last one on. -/
theorem foldlM_takeMember_eq_ok_iff :
    members.foldlM takeMember ⟨none, none⟩ = .ok slots ↔ Holds members slots := by
  induction members using List.reverseRecOn generalizing slots with
  | nil =>
    rw [holds_nil_iff]
    constructor
    · rintro ⟨⟩
      rfl
    · rintro rfl
      rfl
  | append_singleton before member ih =>
    rw [List.foldlM_append, Fallible.bind_eq_ok_iff]
    simp only [List.foldlM_cons, List.foldlM_nil, bind_pure]
    constructor
    · rintro ⟨found, hbefore, hmember⟩
      exact (takeMember_eq_ok_iff (ih.1 hbefore)).1 hmember
    · intro h
      obtain ⟨found, hbefore⟩ := h.of_concat
      exact ⟨found, ih.2 hbefore, (takeMember_eq_ok_iff hbefore).2 h⟩

/-- Why a member cannot be taken behind others. -/
inductive MemberFails (before : List (String × Value)) (member : String × Value) :
    FilterError → Prop where
  | operatorTwice : member.1 ∈ ["o", "operator"] → membersUnder ["o", "operator"] before ≠ [] →
    MemberFails before member .malformedEntry
  | operatorNoText : member.1 ∈ ["o", "operator"] → (∀ operator, ¬ReadsOperator member.2 operator) →
    MemberFails before member .malformedEntry
  | valueTwice : member.1 ∈ ["v", "value"] → membersUnder ["v", "value"] before ≠ [] →
    MemberFails before member .malformedEntry
  | valueNotScalar : member.1 ∈ ["v", "value"] → membersUnder ["v", "value"] before = [] →
    (∀ text, ¬ReadsText member.2 text) → MemberFails before member (.valueNotScalar member.2)

theorem takeMember_eq_error_iff {e : FilterError} (h : Holds before slots) :
    takeMember slots member = .error e ↔ MemberFails before member e := by
  by_cases hoperator : member.1 ∈ operatorKeys
  · have hvalue := not_mem_valueKeys hoperator
    rw [takeMember_of_operator hoperator, Fallible.map_eq_error_iff, takeSlot_eq_error_iff h.operator,
      operatorOfValue_eq_error_iff]
    constructor
    · rintro (⟨htwice, rfl⟩ | ⟨-, hnone, rfl⟩)
      · exact .operatorTwice hoperator htwice
      · exact .operatorNoText hoperator hnone
    · intro hfails
      cases hfails with
      | operatorTwice _ htwice => exact .inl ⟨htwice, rfl⟩
      | operatorNoText _ hnone =>
        by_cases hgiven : membersUnder operatorKeys before = []
        · exact .inr ⟨hgiven, hnone, rfl⟩
        · exact .inl ⟨hgiven, rfl⟩
      | valueTwice hkey => exact absurd hkey hvalue
      | valueNotScalar hkey => exact absurd hkey hvalue
  · by_cases hvalue : member.1 ∈ valueKeys
    · rw [takeMember_of_value hvalue, Fallible.map_eq_error_iff, takeSlot_eq_error_iff h.value,
        textOfValue_eq_error_iff]
      constructor
      · rintro (⟨htwice, rfl⟩ | ⟨hgiven, hnone, rfl⟩)
        · exact .valueTwice hvalue htwice
        · exact .valueNotScalar hvalue hgiven hnone
      · intro hfails
        cases hfails with
        | operatorTwice hkey => exact absurd hkey hoperator
        | operatorNoText hkey => exact absurd hkey hoperator
        | valueTwice _ htwice => exact .inl ⟨htwice, rfl⟩
        | valueNotScalar _ hgiven hnone => exact .inr ⟨hgiven, hnone, rfl⟩
    · rw [takeMember_of_other hoperator hvalue]
      constructor
      · rintro ⟨⟩
      · intro hfails
        cases hfails with
        | operatorTwice hkey => exact absurd hkey hoperator
        | operatorNoText hkey => exact absurd hkey hoperator
        | valueTwice hkey => exact absurd hkey hvalue
        | valueNotScalar hkey => exact absurd hkey hvalue

/-! ### Entries -/

/-- **What an entry may be, and what it gives.** -/
inductive Reads : Value → FilterEntry → Prop where
  | object {members : List (String × Value)} {operator : Option (Option String)} {value : Option String} :
    GivenAtMostOnce ReadsOperator (membersUnder ["o", "operator"] members) operator →
    GivenAtMostOnce ReadsText (membersUnder ["v", "value"] members) value →
    Reads (.object members) ⟨operator.join, value.getD ""⟩
  | emptyArray : Reads (.array []) ⟨none, ""⟩
  | operatorArray {first : Value} {operator : Option String} : ReadsOperator first operator →
    Reads (.array [first]) ⟨operator, ""⟩
  | fullArray {first second : Value} {operator : Option String} {value : String} :
    ReadsOperator first operator → ReadsText second value →
    Reads (.array [first, second]) ⟨operator, value⟩

/-- **What an entry may not be, and the error it gives**: that of the first member or item at fault. -/
inductive Fails : Value → FilterError → Prop where
  | member {before after : List (String × Value)} {member : String × Value} {entry : FilterEntry}
    {e : FilterError} : Reads (.object before) entry → MemberFails before member e →
    Fails (.object (before ++ member :: after)) e
  | firstItem {first : Value} {rest : List Value} : (∀ operator, ¬ReadsOperator first operator) →
    Fails (.array (first :: rest)) .malformedEntry
  | secondItem {first second : Value} {rest : List Value} {operator : Option String} :
    ReadsOperator first operator → (∀ value, ¬ReadsText second value) →
    Fails (.array (first :: second :: rest)) (.valueNotScalar second)
  | thirdItem {first second third : Value} {rest : List Value} {operator : Option String}
    {value : String} : ReadsOperator first operator → ReadsText second value →
    Fails (.array (first :: second :: third :: rest)) .malformedEntry
  | noContainer {value : Value} : (∀ members, value ≠ .object members) →
    (∀ items, value ≠ .array items) → Fails value .malformedEntry

theorem ofMembers_eq_ok_iff {entry : FilterEntry} :
    ofMembers members = .ok entry ↔ Reads (.object members) entry := by
  rw [ofMembers, Fallible.bind_eq_ok_iff]
  simp only [foldlM_takeMember_eq_ok_iff]
  constructor
  · rintro ⟨slots, h, ⟨⟩⟩
    exact .object h.operator h.value
  · rintro (⟨hoperator, hvalue⟩)
    exact ⟨⟨_, _⟩, ⟨hoperator, hvalue⟩, rfl⟩

theorem ofMembers_eq_error_iff {e : FilterError} :
    ofMembers members = .error e ↔ Fails (.object members) e := by
  rw [ofMembers, Fallible.bind_eq_error_iff, Fallible.foldlM_eq_error_iff]
  constructor
  · rintro (⟨before, member, after, slots, rfl, hbefore, hmember⟩ | ⟨slots, -, ⟨⟩⟩)
    have hslots := foldlM_takeMember_eq_ok_iff.1 hbefore
    exact .member (.object hslots.operator hslots.value) ((takeMember_eq_error_iff hslots).1 hmember)
  · intro h
    cases h with
    | member hbefore hmember =>
      cases hbefore with
      | object hoperator hvalue =>
        have hslots : Holds _ ⟨_, _⟩ := ⟨hoperator, hvalue⟩
        exact .inl ⟨_, _, _, _, rfl, foldlM_takeMember_eq_ok_iff.2 hslots,
          (takeMember_eq_error_iff hslots).2 hmember⟩
    | noContainer hobject => exact absurd rfl (hobject members)

theorem ofItems_eq_ok_iff {items : List Value} {entry : FilterEntry} :
    ofItems items = .ok entry ↔ Reads (.array items) entry := by
  constructor
  · intro h
    match items with
    | [] =>
      cases h
      exact .emptyArray
    | [first] =>
      obtain ⟨operator, hoperator, ⟨⟩⟩ := Fallible.bind_eq_ok_iff.1 h
      exact .operatorArray (operatorOfValue_eq_ok_iff.1 hoperator)
    | first :: second :: rest =>
      obtain ⟨operator, hoperator, h⟩ := Fallible.bind_eq_ok_iff.1 h
      obtain ⟨value, hvalue, h⟩ := Fallible.bind_eq_ok_iff.1 h
      cases rest with
      | nil =>
        cases h
        exact .fullArray (operatorOfValue_eq_ok_iff.1 hoperator) (textOfValue_eq_ok_iff.1 hvalue)
      | cons third rest => cases h
  · intro h
    cases h with
    | emptyArray => rfl
    | operatorArray hoperator =>
      rw [ofItems, operatorOfValue_eq_ok_iff.2 hoperator]
      rfl
    | fullArray hoperator hvalue =>
      rw [ofItems, operatorOfValue_eq_ok_iff.2 hoperator, textOfValue_eq_ok_iff.2 hvalue]
      rfl

theorem ofItems_eq_error_iff {items : List Value} {e : FilterError} :
    ofItems items = .error e ↔ Fails (.array items) e := by
  constructor
  · intro h
    match items with
    | [] => cases h
    | [first] =>
      rcases Fallible.bind_eq_error_iff.1 h with hfirst | ⟨operator, -, ⟨⟩⟩
      obtain ⟨hnone, rfl⟩ := operatorOfValue_eq_error_iff.1 hfirst
      exact .firstItem hnone
    | first :: second :: rest =>
      rcases Fallible.bind_eq_error_iff.1 h with hfirst | ⟨operator, hoperator, h⟩
      · obtain ⟨hnone, rfl⟩ := operatorOfValue_eq_error_iff.1 hfirst
        exact .firstItem hnone
      · replace hoperator := operatorOfValue_eq_ok_iff.1 hoperator
        rcases Fallible.bind_eq_error_iff.1 h with hsecond | ⟨value, hvalue, h⟩
        · obtain ⟨hnone, rfl⟩ := textOfValue_eq_error_iff.1 hsecond
          exact .secondItem hoperator hnone
        · cases rest with
          | nil => cases h
          | cons third rest =>
            cases h
            exact .thirdItem hoperator (textOfValue_eq_ok_iff.1 hvalue)
  · intro h
    cases h with
    | @firstItem first rest hnone =>
      have hfirst := operatorOfValue_eq_error_iff.2 ⟨hnone, rfl⟩
      cases rest with
      | nil =>
        rw [ofItems, hfirst]
        rfl
      | cons second rest =>
        rw [ofItems, hfirst]
        rfl
    | secondItem hoperator hnone =>
      rw [ofItems, operatorOfValue_eq_ok_iff.2 hoperator, textOfValue_eq_error_iff.2 ⟨hnone, rfl⟩]
      rfl
    | thirdItem hoperator hvalue =>
      rw [ofItems, operatorOfValue_eq_ok_iff.2 hoperator, textOfValue_eq_ok_iff.2 hvalue]
      rfl
    | noContainer _ harray => exact absurd rfl (harray items)

/-- **An entry is read as what it may be.** -/
theorem ofValue_eq_ok_iff {value : Value} {entry : FilterEntry} :
    ofValue value = .ok entry ↔ Reads value entry := by
  cases value with
  | object members => exact ofMembers_eq_ok_iff
  | array items => exact ofItems_eq_ok_iff
  | null | boolean | number | text =>
    constructor
    · rintro ⟨⟩
    · rintro ⟨⟩

/-- **An entry that is refused is at fault.** -/
theorem ofValue_eq_error_iff {value : Value} {e : FilterError} :
    ofValue value = .error e ↔ Fails value e := by
  cases value with
  | object members => exact ofMembers_eq_error_iff
  | array items => exact ofItems_eq_error_iff
  | null | boolean | number | text =>
    constructor
    · rintro ⟨⟩
      exact .noContainer (by simp) (by simp)
    · rintro ⟨⟩
      rfl

end AdminQuery.FilterEntry
