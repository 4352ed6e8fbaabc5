import AdminQuery.Json.Document
import AdminQuery.Proofs.Lists

/-!
# What documents denote

A document denotes a value when every leaf has one and every object is read as an ordered map.

* `IsOrderedMap`: members where a repeated key has its first place and its last value
* `isOrderedMap_membersOfList`: **the members of a value are such a map of the members as read**
* `Document.Denotes`: the value of a document, told without regard to how deep it nests
* `Document.nesting`: how deep arrays and objects nest
* `Document.valueWithin?_eq_some_iff`: **a document has the value that it denotes as long as there is room**
-/

namespace AdminQuery.Json

/-! ### Ordered maps -/

/-- The members as read, each key once: keys stand in the order in which they first came, and under each of
them stands what came last. -/
structure IsOrderedMap (read members : List (String × Value)) : Prop where
  keys : members.map Prod.fst = (read.map Prod.fst).eraseDups
  last : ∀ key, Keyed.get? Prod.fst members key = read.reverse.find? fun member => member.1 = key

theorem IsOrderedMap.nodup {read members : List (String × Value)} (h : IsOrderedMap read members) :
    (members.map Prod.fst).Nodup := by
  rw [h.keys]
  exact nodup_eraseDups _

/-- There is one such map. -/
theorem IsOrderedMap.unique {read members others : List (String × Value)}
    (h : IsOrderedMap read members) (h' : IsOrderedMap read others) : members = others :=
  Keyed.eq_of_get?_eq (h.keys.trans h'.keys.symm) h.nodup fun key =>
    (h.last key).trans (h'.last key).symm

theorem membersOfList_concat (read : List (String × Value)) (member : String × Value) :
    membersOfList (read ++ [member]) = Keyed.upsert Prod.fst member (membersOfList read) := by
  rw [membersOfList, List.foldl_append]
  rfl

/-- **The members of a value are the ordered map of the members as read.**  By induction on the members read,
from the last one on. -/
theorem isOrderedMap_membersOfList (read : List (String × Value)) :
    IsOrderedMap read (membersOfList read) := by
  induction read using List.reverseRecOn with
  | nil => exact ⟨rfl, fun _ => rfl⟩
  | append_singleton read member ih =>
    rw [membersOfList_concat]
    refine ⟨?_, fun key => ?_⟩
    · rw [Keyed.map_key_upsert, ih.keys, List.map_append, List.map_singleton, eraseDups_concat]
      simp only [List.mem_eraseDups]
    · rw [List.reverse_append, List.reverse_singleton, List.singleton_append]
      by_cases hkey : member.1 = key
      · subst hkey
        rw [Keyed.get?_upsert_self]
        simp
      · rw [Keyed.get?_upsert_of_ne hkey, ih.last]
        simp [hkey]

/-! ### Documents -/

namespace Document

/-- The value that a document denotes. -/
inductive Denotes : Document → Value → Prop where
  | null : Denotes .null .null
  | boolean (b : Bool) : Denotes (.boolean b) (.boolean b)
  | number (n : Number) : Denotes (.number (some n)) (.number n)
  | text (s : String) : Denotes (.text (some s)) (.text s)
  | array {items : List Document} {values : List Value} :
    List.Forall₂ Denotes items values → Denotes (.array items) (.array values)
  | object {members : List (Option String × Document)} {read values : List (String × Value)} :
    members.map Prod.fst = read.map (fun member => some member.1) →
    List.Forall₂ Denotes (members.map Prod.snd) (read.map Prod.snd) →
    IsOrderedMap read values → Denotes (.object members) (.object values)

mutual

/-- How deep arrays and objects nest. -/
def nesting : Document → Nat
  | .null => 0
  | .boolean _ => 0
  | .number _ => 0
  | .text _ => 0
  | .array items => itemNesting items + 1
  | .object members => memberNesting members + 1

/-- How deep the items of an array nest. -/
def itemNesting : List Document → Nat
  | [] => 0
  | item :: rest => max item.nesting (itemNesting rest)

/-- How deep the values of the members of an object nest. -/
def memberNesting : List (Option String × Document) → Nat
  | [] => 0
  | (_, document) :: rest => max document.nesting (memberNesting rest)

end

mutual

/-- **A document has the value that it denotes as long as there is room.** -/
theorem valueWithin?_eq_some_iff : ∀ (document : Document) (room : Nat) (value : Value),
    document.valueWithin? room = some value ↔ document.Denotes value ∧ document.nesting ≤ room
  | .null, room, value => by
    rw [valueWithin?, nesting]
    constructor
    · rintro ⟨⟩
      exact ⟨.null, Nat.zero_le _⟩
    · rintro ⟨⟨⟩, -⟩
      rfl
  | .boolean b, room, value => by
    rw [valueWithin?, nesting]
    constructor
    · rintro ⟨⟩
      exact ⟨.boolean b, Nat.zero_le _⟩
    · rintro ⟨⟨⟩, -⟩
      rfl
  | .number n, room, value => by
    rw [valueWithin?, nesting, Option.map_eq_some_iff]
    constructor
    · rintro ⟨n, rfl, rfl⟩
      exact ⟨.number n, Nat.zero_le _⟩
    · rintro ⟨⟨⟩, -⟩
      exact ⟨_, rfl, rfl⟩
  | .text s, room, value => by
    rw [valueWithin?, nesting, Option.map_eq_some_iff]
    constructor
    · rintro ⟨s, rfl, rfl⟩
      exact ⟨.text s, Nat.zero_le _⟩
    · rintro ⟨⟨⟩, -⟩
      exact ⟨_, rfl, rfl⟩
  | .array items, room, value => by
    have hitems := itemValues?_eq_some_iff items (room - 1)
    rw [valueWithin?, nesting]
    constructor
    · intro h
      split at h
      · cases h
      · obtain ⟨values, hvalues, rfl⟩ := Option.map_eq_some_iff.1 h
        obtain ⟨hdenotes, hroom⟩ := (hitems values).1 hvalues
        exact ⟨.array hdenotes, by omega⟩
    · rintro ⟨hdenotes, hroom⟩
      cases hdenotes with
      | array hdenotes =>
        rw [if_neg (by omega), (hitems _).2 ⟨hdenotes, by omega⟩]
        rfl
  | .object members, room, value => by
    have hmembers := memberValues?_eq_some_iff members (room - 1)
    rw [valueWithin?, nesting]
    constructor
    · intro h
      split at h
      · cases h
      · obtain ⟨read, hread, rfl⟩ := Option.map_eq_some_iff.1 h
        obtain ⟨hkeys, hdenotes, hroom⟩ := (hmembers read).1 hread
        exact ⟨.object hkeys hdenotes (isOrderedMap_membersOfList read), by omega⟩
    · rintro ⟨hdenotes, hroom⟩
      cases hdenotes with
      | object hkeys hdenotes hmap =>
        rw [if_neg (by omega), (hmembers _).2 ⟨hkeys, hdenotes, by omega⟩, Option.map_some,
          (isOrderedMap_membersOfList _).unique hmap]

theorem itemValues?_eq_some_iff : ∀ (items : List Document) (room : Nat) (values : List Value),
    itemValues? room items = some values ↔
      List.Forall₂ Denotes items values ∧ itemNesting items ≤ room
  | [], room, values => by
    rw [itemValues?, itemNesting, List.forall₂_nil_left_iff]
    simp [eq_comm]
  | item :: rest, room, values => by
    have hitem := valueWithin?_eq_some_iff item room
    have hrest := itemValues?_eq_some_iff rest room
    rw [itemValues?, itemNesting, List.forall₂_cons_left_iff, Nat.max_le]
    constructor
    · intro h
      obtain ⟨value, hvalue, h⟩ := Option.bind_eq_some_iff.1 h
      obtain ⟨others, hothers, h⟩ := Option.bind_eq_some_iff.1 h
      cases h
      obtain ⟨hvalue, hroom⟩ := (hitem value).1 hvalue
      obtain ⟨hothers, hroom'⟩ := (hrest others).1 hothers
      exact ⟨⟨value, others, hvalue, hothers, rfl⟩, hroom, hroom'⟩
    · rintro ⟨⟨value, others, hvalue, hothers, rfl⟩, hroom, hroom'⟩
      rw [(hitem value).2 ⟨hvalue, hroom⟩, (hrest others).2 ⟨hothers, hroom'⟩]
      rfl

theorem memberValues?_eq_some_iff : ∀ (members : List (Option String × Document)) (room : Nat)
    (read : List (String × Value)), memberValues? room members = some read ↔
      members.map Prod.fst = read.map (fun member => some member.1) ∧
        List.Forall₂ Denotes (members.map Prod.snd) (read.map Prod.snd) ∧
        memberNesting members ≤ room
  | [], room, read => by
    rw [memberValues?, memberNesting, List.map_nil, List.map_nil, List.forall₂_nil_left_iff]
    constructor
    · rintro ⟨⟩
      exact ⟨rfl, rfl, Nat.zero_le room⟩
    · rintro ⟨-, hread, -⟩
      rw [List.map_eq_nil_iff.1 hread]
  | (key, document) :: rest, room, read => by
    have hvalue := valueWithin?_eq_some_iff document room
    have hrest := memberValues?_eq_some_iff rest room
    rw [memberValues?, memberNesting, Nat.max_le]
    constructor
    · intro h
      obtain ⟨name, rfl, hvalues⟩ := Option.bind_eq_some_iff.1 h
      obtain ⟨value, hdenotes, h⟩ := Option.bind_eq_some_iff.1 hvalues
      obtain ⟨others, hothers, h⟩ := Option.bind_eq_some_iff.1 h
      cases h
      obtain ⟨hdenotes, hroom⟩ := (hvalue value).1 hdenotes
      obtain ⟨hkeys, hothers, hroom'⟩ := (hrest others).1 hothers
      exact ⟨congrArg (some name :: ·) hkeys, .cons hdenotes hothers, hroom, hroom'⟩
    · rintro ⟨hkeys, hdenotes, hroom, hroom'⟩
      cases read with
      | nil => cases hkeys
      | cons member others =>
        obtain ⟨rfl, hothers⟩ := List.cons.inj hkeys
        obtain ⟨hdenotes, htail⟩ := List.forall₂_cons.1 hdenotes
        have htail := (hrest others).2 ⟨hothers, htail, hroom'⟩
        rw [(hvalue member.2).2 ⟨hdenotes, hroom⟩, htail]
        rfl

end

end Document

end AdminQuery.Json
