import AdminQuery.Proofs.RegistryRuns
import Mathlib.Data.List.Induction
import Mathlib.Data.Set.Card

/-!
# What a registry remembers

A registry forgets how it came about.  Told by the changes alone, the type under a name is the last one that
was registered and not removed since, and a name stands where it was when it last came back.

* `Operation.Registers`, `Operation.Removes`: what a change does to a name
* `Leaves`: the type that the changes leave under a name
* `EnteredAt`: the change with which a name came to stay
* `Reflects`: a registry holds what the changes leave, in the order in which the names came
* `Reflects.apply`: **one more change keeps that**, by cases on the change
* `reflects_run`: **so does every run**, by induction on the changes
* `perform`, `step_eq`: a change in place, with what it answers
* `registry_refines_ordered_map`: with what the next change answers, and which types it moves
-/

namespace AdminQuery.Registry

variable {registry : Registry} {operations : List Operation} {operation : Operation} {name : String}
  {record : RecordType}

/-! ### What changes do to a name -/

/-- The change registers a type of this name. -/
def Operation.Registers : Operation → String → Prop
  | .register record, name => record.name = name
  | .unregister _, _ => False
  | .clear, _ => False

/-- The change removes whatever has this name. -/
def Operation.Removes : Operation → String → Prop
  | .register _, _ => False
  | .unregister removed, name => removed = name
  | .clear, _ => True

theorem Operation.registers_iff :
    operation.Registers name ↔ ∃ record, operation = .register record ∧ record.name = name := by
  cases operation <;> simp [Operation.Registers]

/-- The changes leave `record` under `name`: it was registered, and the name was neither registered again
nor removed after that. -/
def Leaves (operations : List Operation) (name : String) (record : RecordType) : Prop :=
  ∃ before after, operations = before ++ .register record :: after ∧ record.name = name ∧
    ∀ later ∈ after, ¬later.Registers name ∧ ¬later.Removes name

/-- The name came with the change at this place, where the changes before it leave nothing under it, and was
not removed after that. -/
def EnteredAt (operations : List Operation) (name : String) (place : ℕ) : Prop :=
  ∃ record, operations[place]? = some (.register record) ∧ record.name = name ∧
    (∀ held, ¬Leaves (operations.take place) name held) ∧
    ∀ later ∈ operations.drop (place + 1), ¬later.Removes name

/-- One name came before the other. -/
def EnteredBefore (operations : List Operation) (first second : String) : Prop :=
  ∃ i j, EnteredAt operations first i ∧ EnteredAt operations second j ∧ i < j

/-! ### One more change -/

/-- The type that is left after one more change is the one just registered, or the one left before. -/
theorem leaves_concat : Leaves (operations ++ [operation]) name record ↔
    (operation = .register record ∧ record.name = name) ∨
      (Leaves operations name record ∧ ¬operation.Registers name ∧ ¬operation.Removes name) := by
  constructor
  · rintro ⟨before, after, hsplit, hname, hlater⟩
    cases after using List.reverseRecOn with
    | nil =>
      obtain ⟨-, hlast⟩ := List.append_inj' hsplit rfl
      exact .inl ⟨List.cons.inj hlast |>.1, hname⟩
    | append_singleton after last =>
      rw [← List.cons_append, ← List.append_assoc] at hsplit
      obtain ⟨hinit, hlast⟩ := List.append_inj' hsplit rfl
      have hoperation : operation = last := (List.cons.inj hlast).1
      subst hoperation
      exact .inr ⟨⟨before, after, hinit, hname, fun later h => hlater later (by simp [h])⟩,
        hlater operation (by simp)⟩
  · rintro (⟨rfl, hname⟩ | ⟨⟨before, after, rfl, hname, hlater⟩, hkeeps⟩)
    · exact ⟨operations, [], rfl, hname, by simp⟩
    · refine ⟨before, after ++ [operation], by simp, hname, ?_⟩
      intro later h
      rcases List.mem_append.1 h with h | h
      · exact hlater later h
      · rw [List.mem_singleton.1 h]
        exact hkeeps

/-- A name that is there after one more change came before and was not removed, or came with the change. -/
theorem enteredAt_concat {place : ℕ} : EnteredAt (operations ++ [operation]) name place ↔
    (EnteredAt operations name place ∧ ¬operation.Removes name) ∨
      (place = operations.length ∧ operation.Registers name ∧ ∀ held, ¬Leaves operations name held) := by
  rcases Nat.lt_trichotomy place operations.length with hlt | rfl | hgt
  · -- The change at this place is an earlier one.
    have hne : place ≠ operations.length := Nat.ne_of_lt hlt
    simp only [EnteredAt, List.getElem?_append_left hlt, List.take_append_of_le_length hlt.le,
      List.drop_append_of_le_length (Nat.succ_le_of_lt hlt), List.mem_append, List.mem_singleton,
      or_imp, forall_and, forall_eq, hne, false_and, or_false]
    constructor
    · rintro ⟨record, hplace, hname, hnew, hlater, hlast⟩
      exact ⟨⟨record, hplace, hname, hnew, hlater⟩, hlast⟩
    · rintro ⟨⟨record, hplace, hname, hnew, hlater⟩, hlast⟩
      exact ⟨record, hplace, hname, hnew, hlater, hlast⟩
  · -- The change at this place is the last one.
    have hnone : ¬EnteredAt operations name operations.length := by
      rintro ⟨record, hplace, -⟩
      simp at hplace
    simp only [hnone, false_and, false_or, true_and]
    constructor
    · rintro ⟨record, hplace, hname, hnew, -⟩
      have hoperation : operation = .register record := by simpa using hplace
      subst hoperation
      exact ⟨hname, by simpa using hnew⟩
    · rintro ⟨hregisters, hnew⟩
      obtain ⟨record, rfl, hname⟩ := Operation.registers_iff.1 hregisters
      exact ⟨record, by simp, hname, by simpa using hnew, by simp⟩
  · -- No change stands at this place.
    have hne : place ≠ operations.length := Nat.ne_of_gt hgt
    have hout : operations.length ≤ place := hgt.le
    have hout' : (operations ++ [operation]).length ≤ place := by simpa using hgt
    simp [EnteredAt, List.getElem?_eq_none hout, List.getElem?_eq_none hout', hne]

/-- A name that came stays in front of what came later, until one of them is removed. -/
theorem EnteredBefore.concat {first second : String} (h : EnteredBefore operations first second)
    (hfirst : ¬operation.Removes first) (hsecond : ¬operation.Removes second) :
    EnteredBefore (operations ++ [operation]) first second := by
  obtain ⟨i, j, hi, hj, hlt⟩ := h
  exact ⟨i, j, enteredAt_concat.2 (.inl ⟨hi, hfirst⟩), enteredAt_concat.2 (.inl ⟨hj, hsecond⟩), hlt⟩

theorem EnteredAt.lt_length {place : ℕ} (h : EnteredAt operations name place) :
    place < operations.length := by
  obtain ⟨record, hplace, -⟩ := h
  exact (List.getElem?_eq_some_iff.1 hplace).1

/-- A name is held exactly when it has come to stay. -/
theorem exists_enteredAt_iff :
    (∃ place, EnteredAt operations name place) ↔ ∃ record, Leaves operations name record := by
  induction operations using List.reverseRecOn with
  | nil => simp [EnteredAt, Leaves]
  | append_singleton operations operation ih =>
    simp only [enteredAt_concat, leaves_concat]
    constructor
    · rintro ⟨place, hplace⟩
      by_cases hregisters : operation.Registers name
      · obtain ⟨next, hnext⟩ := Operation.registers_iff.1 hregisters
        exact ⟨next, .inl hnext⟩
      · rcases hplace with ⟨hplace, hkept⟩ | ⟨-, hlast, -⟩
        · obtain ⟨record, hrecord⟩ := ih.1 ⟨place, hplace⟩
          exact ⟨record, .inr ⟨hrecord, hregisters, hkept⟩⟩
        · exact absurd hlast hregisters
    · rintro ⟨record, ⟨rfl, hname⟩ | ⟨hrecord, -, hkept⟩⟩
      · by_cases hheld : ∃ held, Leaves operations name held
        · -- A name that is registered again stays where it came.
          obtain ⟨place, hplace⟩ := ih.2 hheld
          exact ⟨place, .inl ⟨hplace, not_false⟩⟩
        · exact ⟨operations.length, .inr ⟨rfl, hname, not_exists.1 hheld⟩⟩
      · obtain ⟨place, hplace⟩ := ih.2 ⟨record, hrecord⟩
        exact ⟨place, .inl ⟨hplace, hkept⟩⟩

/-- A name came to stay only once. -/
theorem EnteredAt.unique {i j : ℕ} (hi : EnteredAt operations name i)
    (hj : EnteredAt operations name j) : i = j := by
  induction operations using List.reverseRecOn with
  | nil => exact absurd hi.lt_length (Nat.not_lt_zero i)
  | append_singleton operations operation ih =>
    have hheld : ∀ {place}, EnteredAt operations name place →
        ¬∀ held, ¬Leaves operations name held := by
      intro place hplace hnone
      obtain ⟨held, hleaves⟩ := exists_enteredAt_iff.1 ⟨place, hplace⟩
      exact hnone held hleaves
    rcases enteredAt_concat.1 hi with ⟨hi, -⟩ | ⟨hi, -, hnone⟩ <;>
      rcases enteredAt_concat.1 hj with ⟨hj, -⟩ | ⟨hj, -, hnone'⟩
    · exact ih hi hj
    · exact absurd hnone' (hheld hi)
    · exact absurd hnone (hheld hj)
    · rw [hi, hj]

/-! ### The registry behind the changes -/

/-- What is found after one change is the type just registered, or the one found before. -/
theorem find?_apply (h : registry.NamesNodup) : (registry.apply operation).find? name = some record ↔
    (operation = .register record ∧ record.name = name) ∨
      (registry.find? name = some record ∧ ¬operation.Registers name ∧ ¬operation.Removes name) := by
  cases operation with
  | register next =>
    show Keyed.get? RecordType.name (Keyed.upsert RecordType.name next registry.types) name = _ ↔ _
    by_cases hname : next.name = name
    · subst hname
      rw [Keyed.get?_upsert_self]
      constructor
      · intro hnext
        cases hnext
        exact .inl ⟨rfl, rfl⟩
      · rintro (⟨hnext, -⟩ | ⟨-, hother, -⟩)
        · cases hnext
          rfl
        · exact absurd rfl hother
    · rw [Keyed.get?_upsert_of_ne hname]
      constructor
      · intro hfind
        exact .inr ⟨hfind, hname, not_false⟩
      · rintro (⟨hnext, hrecord⟩ | ⟨hfind, -⟩)
        · cases hnext
          exact absurd hrecord hname
        · exact hfind
  | unregister removed =>
    show Keyed.get? RecordType.name (Keyed.erase RecordType.name removed registry.types) name = _ ↔ _
    by_cases hname : removed = name
    · subst hname
      rw [Keyed.get?_erase_self h]
      simp [Operation.Removes]
    · rw [Keyed.get?_erase_of_ne hname]
      simp [Operation.Registers, Operation.Removes, hname, find?]
  | clear => simp [Registry.apply, empty, find?, Keyed.get?, Operation.Removes]

/-- The registry holds what the changes leave, in the order in which the names came. -/
structure Reflects (registry : Registry) (operations : List Operation) : Prop where
  names_nodup : registry.NamesNodup
  find?_iff : ∀ {name record}, registry.find? name = some record ↔ Leaves operations name record
  ordered : (registry.types.map RecordType.name).Pairwise (EnteredBefore operations)

theorem reflects_empty : empty.Reflects [] where
  names_nodup := namesNodup_empty
  find?_iff := by simp [empty, find?, Keyed.get?, Leaves]
  ordered := List.Pairwise.nil

/-- The registered names are those that changes leave a type under. -/
theorem Reflects.mem_names_iff (h : registry.Reflects operations) :
    name ∈ registry.types.map RecordType.name ↔ ∃ record, Leaves operations name record := by
  rw [← Keyed.isSome_get?_iff, Option.isSome_iff_exists]
  exact exists_congr fun record => h.find?_iff

/-- **One more change keeps the names in the order in which they came.** -/
theorem Reflects.ordered_apply (h : registry.Reflects operations) (operation : Operation) :
    ((registry.apply operation).types.map RecordType.name).Pairwise
      (EnteredBefore (operations ++ [operation])) := by
  cases operation with
  | register record =>
    show ((Keyed.upsert RecordType.name record registry.types).map RecordType.name).Pairwise _
    have hkept : (registry.types.map RecordType.name).Pairwise
        (EnteredBefore (operations ++ [.register record])) :=
      h.ordered.imp fun hbefore => hbefore.concat not_false not_false
    rw [Keyed.map_key_upsert]
    split
    · exact hkept
    · rename_i hnew
      rw [List.pairwise_append]
      refine ⟨hkept, List.pairwise_singleton _ _, ?_⟩
      -- The new name came with the last change, all others with earlier ones.
      intro first hfirst second hsecond
      rw [List.mem_singleton.1 hsecond]
      obtain ⟨i, hi⟩ := exists_enteredAt_iff.2 (h.mem_names_iff.1 hfirst)
      have hnone : ∀ held, ¬Leaves operations record.name held := by
        intro held hheld
        exact hnew (h.mem_names_iff.2 ⟨held, hheld⟩)
      exact ⟨i, operations.length, enteredAt_concat.2 (.inl ⟨hi, not_false⟩),
        enteredAt_concat.2 (.inr ⟨rfl, rfl, hnone⟩), hi.lt_length⟩
  | unregister removed =>
    show ((Keyed.erase RecordType.name removed registry.types).map RecordType.name).Pairwise _
    rw [Keyed.map_key_erase]
    have hother : ∀ other ∈ (registry.types.map RecordType.name).erase removed,
        ¬(Operation.unregister removed).Removes other := by
      rintro other hmem rfl
      exact h.names_nodup.not_mem_erase hmem
    refine List.Pairwise.imp_of_mem ?_ (h.ordered.sublist List.erase_sublist)
    intro first second hfirst hsecond hbefore
    exact hbefore.concat (hother first hfirst) (hother second hsecond)
  | clear => exact List.Pairwise.nil

/-- **One more change keeps a registry in step with its history.** -/
theorem Reflects.apply (h : registry.Reflects operations) (operation : Operation) :
    (registry.apply operation).Reflects (operations ++ [operation]) where
  names_nodup := h.names_nodup.apply operation
  find?_iff := by
    intro name record
    rw [find?_apply h.names_nodup, leaves_concat, h.find?_iff]
  ordered := h.ordered_apply operation

/-- **Every run keeps a registry in step with its history.** -/
theorem reflects_run (operations : List Operation) : (empty.run operations).Reflects operations := by
  induction operations using List.reverseRecOn with
  | nil => exact reflects_empty
  | append_singleton operations operation ih =>
    have hstep : empty.run (operations ++ [operation]) = (empty.run operations).apply operation := by
      rw [run, List.foldl_append]
      rfl
    rw [hstep]
    exact ih.apply operation

/-! ### Changes in place -/

/-- What a change answers. -/
inductive Answer where
  /-- The name was new. -/
  | registered (isNew : Bool)
  /-- The type that was removed. -/
  | unregistered (removed : Option RecordType)
  | cleared
  deriving DecidableEq, Repr

/-- A change in place: the name is looked for once, and what stands there is overwritten or taken out. -/
def perform : Operation → StateM Registry Answer
  | .register record => do
    match Keyed.place? RecordType.name (← get).types record.name with
    | some place =>
      modify fun registry => ⟨registry.types.set place record⟩
      return .registered false
    | none =>
      modify fun registry => ⟨registry.types ++ [record]⟩
      return .registered true
  | .unregister name => do
    match Keyed.place? RecordType.name (← get).types name with
    | some place =>
      let removed := (← get).types[place]?
      modify fun registry => ⟨registry.types.eraseIdx place⟩
      return .unregistered removed
    | none => return .unregistered none
  | .clear => do
    set empty
    return .cleared

/-- The answer to a change in place, and the registry that it leaves behind. -/
def step (registry : Registry) (operation : Operation) : Answer × Registry :=
  (perform operation).run registry

/-- The registry that changes in place leave behind, one after the other. -/
def performAll (registry : Registry) (operations : List Operation) : Registry :=
  operations.foldl (fun registry operation => (registry.step operation).2) registry

/-- What the registry before a change has to answer. -/
def answer (registry : Registry) : Operation → Answer
  | .register record => .registered (registry.isNew record)
  | .unregister name => .unregistered (registry.find? name)
  | .clear => .cleared

/-- **A change in place leaves the registry after the change, and answers by the registry before it.** -/
theorem step_eq (registry : Registry) (operation : Operation) :
    registry.step operation = (registry.answer operation, registry.apply operation) := by
  cases operation with
  | register record =>
    cases hplace : Keyed.place? RecordType.name registry.types record.name with
    | some place =>
      obtain ⟨held, -, hfind⟩ := Keyed.get?_of_place? hplace
      have hstep : registry.step (.register record) =
          (.registered false, ⟨registry.types.set place record⟩) := by
        simp only [step, perform, StateT.run_bind, StateT.run_get, pure_bind, hplace]
        rfl
      rw [hstep, answer, isNew, contains, find?, hfind, apply, register, Keyed.upsert_of_place? hplace]
      rfl
    | none =>
      have hfind := Keyed.get?_of_place?_eq_none hplace
      have hstep : registry.step (.register record) =
          (.registered true, ⟨registry.types ++ [record]⟩) := by
        simp only [step, perform, StateT.run_bind, StateT.run_get, pure_bind, hplace]
        rfl
      rw [hstep, answer, isNew, contains, find?, hfind, apply, register,
        Keyed.upsert_of_get?_eq_none hfind]
      rfl
  | unregister name =>
    cases hplace : Keyed.place? RecordType.name registry.types name with
    | some place =>
      obtain ⟨held, hheld, hfind⟩ := Keyed.get?_of_place? hplace
      have hstep : registry.step (.unregister name) =
          (.unregistered registry.types[place]?, ⟨registry.types.eraseIdx place⟩) := by
        simp only [step, perform, StateT.run_bind, StateT.run_get, pure_bind, hplace]
        rfl
      rw [hstep, hheld, answer, find?, hfind, apply, unregister, Keyed.erase_of_place? hplace]
    | none =>
      have hfind := Keyed.get?_of_place?_eq_none hplace
      have hstep : registry.step (.unregister name) = (.unregistered none, registry) := by
        simp only [step, perform, StateT.run_bind, StateT.run_get, pure_bind, hplace]
        rfl
      rw [hstep, answer, find?, hfind, apply, unregister, Keyed.erase_of_get?_eq_none hfind]
  | clear => rfl

/-- Changes in place are a run. -/
theorem performAll_eq_run (registry : Registry) (operations : List Operation) :
    registry.performAll operations = registry.run operations := by
  rw [performAll, run]
  congr
  funext registry operation
  rw [step_eq]

/-! ### What the registry tells -/

theorem contains_iff : registry.contains name = true ↔ name ∈ registry.types.map RecordType.name :=
  Keyed.isSome_get?_iff

/-- A registry has as many types as there are names under which it finds one. -/
theorem NamesNodup.encard_contains (h : registry.NamesNodup) :
    {name | registry.contains name = true}.encard = registry.types.length := by
  have hset : {name | registry.contains name = true} =
      ((registry.types.map RecordType.name).toFinset : Set String) := by
    ext name
    simp only [Set.mem_ofPred_eq, contains_iff, List.coe_toFinset]
  rw [hset, Set.encard_coe_eq_coe_finsetCard, List.toFinset_card_of_nodup h, List.length_map]

/-- **A registry is a map in the order of insertion**, after every run of changes from the empty registry:
under a name it finds the type that was registered last and not removed since; its types stand in the order
in which their names came to stay, each name once; and a change answers what it finds, replaces a type where
it stands, adds a new one at the end, and removes one without moving the others. -/
theorem registry_refines_ordered_map (operations : List Operation) :
    let registry := empty.performAll operations
    let names := registry.types.map RecordType.name
    (names.Nodup ∧ names.Pairwise (EnteredBefore operations) ∧
      ∀ name, name ∈ names ↔ ∃! place, EnteredAt operations name place) ∧
    ((∀ name record, registry.find? name = some record ↔ Leaves operations name record) ∧
      (∀ name, registry.contains name = true ↔ ∃ record, registry.find? name = some record) ∧
      {name | registry.contains name = true}.encard = registry.types.length ∧
      (registry.types.isEmpty = true ↔ ∀ name, registry.find? name = none)) ∧
    (∀ record, (registry.step (.register record)).1 =
        .registered (!registry.contains record.name) ∧
      (registry.find? record.name = none →
        (registry.step (.register record)).2.types = registry.types ++ [record]) ∧
      ∀ held, registry.find? record.name = some held → ∃ before after,
        registry.types = before ++ held :: after ∧
          (registry.step (.register record)).2.types = before ++ record :: after) ∧
    ∀ name, (registry.step (.unregister name)).1 = .unregistered (registry.find? name) ∧
      (registry.step (.unregister name)).2.types =
        registry.types.filter fun record => record.name ≠ name := by
  intro registry names
  have h : registry.Reflects operations := by
    rw [show registry = empty.run operations from performAll_eq_run empty operations]
    exact reflects_run operations
  simp only [step_eq]
  refine ⟨⟨h.names_nodup, h.ordered, ?_⟩, ⟨fun name record => h.find?_iff, ?_,
    h.names_nodup.encard_contains, ?_⟩, ?_, ?_⟩
  · intro name
    rw [h.mem_names_iff, ← exists_enteredAt_iff]
    exact ⟨fun ⟨place, hplace⟩ => ⟨place, hplace, fun other hother => hother.unique hplace⟩,
      ExistsUnique.exists⟩
  · intro name
    exact Option.isSome_iff_exists
  · simp [find?, Keyed.get?_eq_none_iff, List.eq_nil_iff_forall_not_mem]
  · intro record
    exact ⟨rfl, Keyed.upsert_of_get?_eq_none, fun held => Keyed.upsert_of_get?_eq_some⟩
  · intro name
    exact ⟨rfl, Keyed.erase_eq_filter h.names_nodup⟩

/-- A type that is registered again stays where it is, one that comes back goes to the end. -/
example :
    (empty.performAll [.register ⟨"Post", "posts", "id"⟩, .register ⟨"Photo", "photos", "id"⟩,
      .register ⟨"Tag", "tags", "id"⟩, .register ⟨"Post", "articles", "id"⟩, .unregister "Photo",
      .register ⟨"Photo", "photos", "serial"⟩]).types =
        [⟨"Post", "articles", "id"⟩, ⟨"Tag", "tags", "id"⟩, ⟨"Photo", "photos", "serial"⟩] := by
  decide

end AdminQuery.Registry
