import AdminQuery.Condition.Tree
import AdminQuery.Proofs.Alignment
import AdminQuery.Proofs.Numbering

/-!
# Conditions of any depth

A tree says how a condition is put together from its leaves, by joins and parentheses of any depth and
width.  What holds of the leaves is carried up to the root.

* `isAlways_build_iff`: **a tree is empty exactly when all its leaves are**
* `bindings_build`: **a tree binds what its leaves bind**, from left to right
* `Composes.build`: **a property that survives parentheses and separators holds of a tree** when it
  holds of the leaves
* `trees_keep_their_placeholders`: all three, and how the placeholders of a tree are numbered
-/

namespace AdminQuery

namespace ConditionTree

variable {separator : String} {parts : List ConditionTree}

/-! ### Empty trees -/

theorem isAlways_join_map_build (h : ∀ part ∈ parts,
      (part.build.isAlways = true ↔ ∀ leaf ∈ part.leaves, leaf.isAlways = true)) :
    (Condition.join separator (parts.map build)).isAlways = true ↔
      ∀ leaf ∈ parts.flatMap leaves, leaf.isAlways = true := by
  rw [Condition.isAlways_join_iff, List.forall_mem_map, List.forall_mem_flatMap]
  exact forall₂_congr h

/-- **A tree is empty exactly when all its leaves are.** -/
theorem isAlways_build_iff (tree : ConditionTree) :
    tree.build.isAlways = true ↔ ∀ leaf ∈ tree.leaves, leaf.isAlways = true := by
  induction tree with
  | always => simp [build, leaves]
  | leaf condition => simp [build, leaves]
  | any parts ih =>
    rw [build_any, leaves_any]
    exact isAlways_join_map_build ih
  | all parts ih =>
    rw [build_all, leaves_all]
    exact isAlways_join_map_build ih
  | enclosed part ih => rw [build, leaves, Condition.isAlways_enclosed, ih]

/-! ### The values of a tree -/

/-- The empty leaves of a tree bind nothing. -/
def EmptyLeavesBindNothing (tree : ConditionTree) : Prop :=
  ∀ leaf ∈ tree.leaves, leaf.isAlways = true → leaf.bindings = []

/-- The parts of a join each bind what their leaves bind, and those that are empty bind nothing. -/
theorem bindings_join_map_build
    (h : ∀ part ∈ parts, part.build.bindings = part.leaves.flatMap Condition.bindings)
    (hempty : ∀ part ∈ parts, part.EmptyLeavesBindNothing) :
    (Condition.join separator (parts.map build)).bindings =
      (parts.flatMap leaves).flatMap Condition.bindings := by
  have hparts : ∀ c ∈ parts.map build, c.isAlways = true → c.bindings = [] := by
    refine List.forall_mem_map.2 fun part hpart hbuild => ?_
    rw [h part hpart, List.flatMap_eq_nil_iff]
    exact fun leaf hleaf =>
      hempty part hpart leaf hleaf ((isAlways_build_iff part).1 hbuild leaf hleaf)
  rw [Condition.bindings_join hparts, List.flatMap_map, List.flatMap_assoc]
  exact List.flatMap_congr h

/-- **A tree binds what its leaves bind**, from left to right. -/
theorem bindings_build {tree : ConditionTree} (h : tree.EmptyLeavesBindNothing) :
    tree.build.bindings = tree.leaves.flatMap Condition.bindings := by
  induction tree with
  | always => rfl
  | leaf condition => simp [build, leaves]
  | any parts ih =>
    rw [EmptyLeavesBindNothing, leaves_any, List.forall_mem_flatMap] at h
    rw [build_any, leaves_any]
    exact bindings_join_map_build (fun part hpart => ih part hpart (h part hpart)) h
  | all parts ih =>
    rw [EmptyLeavesBindNothing, leaves_all, List.forall_mem_flatMap] at h
    rw [build_all, leaves_all]
    exact bindings_join_map_build (fun part hpart => ih part hpart (h part hpart)) h
  | enclosed part ih => rw [build, leaves, Condition.bindings_enclosed, ih h]

end ConditionTree

/-! ### Properties of leaves -/

open ConditionTree in
/-- **A property of the leaves that survives parentheses and separators is one of the tree**, unless the
tree is empty. -/
theorem Condition.Composes.build {P : Condition → Prop} (hP : Composes P) {tree : ConditionTree}
    (h : ∀ leaf ∈ tree.leaves, P leaf) : TrivialOr P tree.build := by
  induction tree with
  | always => exact .inl rfl
  | leaf condition => exact .inr (h condition (List.mem_singleton_self condition))
  | any parts ih =>
    rw [leaves_any, List.forall_mem_flatMap] at h
    rw [build_any]
    exact hP.any (List.forall_mem_map.2 fun part hpart => ih part hpart (h part hpart))
  | all parts ih =>
    rw [leaves_all, List.forall_mem_flatMap] at h
    rw [build_all]
    exact hP.all (List.forall_mem_map.2 fun part hpart => ih part hpart (h part hpart))
  | enclosed part ih => exact hP.enclosed (ih h)

/-- **A tree of leaves that have a placeholder for each value, and that close their literals, has a
placeholder for each value itself.**  Its values are those of the leaves from left to right, and it is
empty exactly when they are; one dialect numbers the placeholders through the whole text, from 1, and
the others leave the text as it is. -/
theorem trees_keep_their_placeholders {tree : ConditionTree}
    (h : ∀ leaf ∈ tree.leaves, leaf.IsClosed) :
    tree.build.arity = tree.build.bindings.length ∧
    tree.build.bindings = tree.leaves.flatMap Condition.bindings ∧
    (tree.build.isAlways = true ↔ ∀ leaf ∈ tree.leaves, leaf.sql = "") ∧
    (∃ parts, Placeholder.Splits tree.build.sql parts) ∧
    (∀ parts, Placeholder.Splits tree.build.sql parts →
      parts.length = tree.build.bindings.length + 1 ∧
      tree.build.inDialect .postgres =
        Placeholder.numbered (fun index => "$" ++ toString index) 1 parts) ∧
    ∀ dialect, dialect ≠ .postgres → tree.build.inDialect dialect = tree.build.sql := by
  have hclosed : tree.build.IsClosed :=
    Condition.isClosed_of_trivialOr (Condition.composes_isClosed.build h)
  have harity : tree.build.arity = tree.build.bindings.length := hclosed.1
  have hempty : tree.build.isAlways = true ↔ ∀ leaf ∈ tree.leaves, leaf.sql = "" := by
    rw [ConditionTree.isAlways_build_iff]
    simp only [Condition.isAlways, String.isEmpty_iff]
  refine ⟨harity, ConditionTree.bindings_build fun leaf hleaf => (h leaf hleaf).bindings_eq_nil,
    hempty, Placeholder.exists_splits tree.build.sql, fun parts hparts => ⟨?_, ?_⟩,
    fun dialect hdialect => Condition.inDialect_of_ne_postgres tree.build hdialect⟩
  · rw [hparts.length, ← harity, Condition.arity]
  · exact Condition.inDialect_postgres hparts

namespace League

/-- Teams that have a name, and that are of one division or founded on one of two days. -/
def nested : ConditionTree :=
  .all [.leaf (.fixed "name != 'who?'"),
    .enclosed (.any [.leaf ⟨"division_id = ?", [.integer 7]⟩, .always,
      .leaf ⟨"founded IN (?, ?)", [.text "1960-01-01", .text "1961-01-01"]⟩]),
    .any []]

end League

/-- The placeholders of both alternatives are numbered, and the `?` in the literal stays. -/
theorem trees_keep_their_placeholders_league :
    (∀ leaf ∈ League.nested.leaves, leaf.IsClosed) ∧
    League.nested.build.sql =
      "name != 'who?' AND (division_id = ? OR founded IN (?, ?))" ∧
    League.nested.build.arity = 3 ∧
    League.nested.build.bindings = [.integer 7, .text "1960-01-01", .text "1961-01-01"] ∧
    League.nested.build.isAlways = false ∧
    League.nested.build.inDialect .postgres =
      "name != 'who?' AND (division_id = $1 OR founded IN ($2, $3))" ∧
    League.nested.build.inDialect .mysql = League.nested.build.sql := by
  have hleaves : ∀ leaf ∈ League.nested.leaves, leaf.IsClosed := by decide +kernel
  have hsql : League.nested.build.sql = "name != 'who?' AND (division_id = " ++ "?" ++
      (" OR founded IN (" ++ "?" ++ (", " ++ "?" ++ "))")) := by decide +kernel
  have hparts : Placeholder.Splits League.nested.build.sql
      ["name != 'who?' AND (division_id = ", " OR founded IN (", ", ", "))"] := by
    rw [hsql]
    exact .mark (by decide) (.mark (by decide) (.mark (by decide) (.last (by decide))))
  obtain ⟨harity, hbindings, hempty, -, hnumbered, hplain⟩ := trees_keep_their_placeholders hleaves
  have hvalues : League.nested.leaves.flatMap Condition.bindings =
      [.integer 7, .text "1960-01-01", .text "1961-01-01"] := by decide +kernel
  have hnonempty : League.nested.build.isAlways = false := by
    rw [← Bool.not_eq_true, hempty]
    decide +kernel
  have hrendered : Placeholder.numbered (fun index => "$" ++ toString index) 1
      ["name != 'who?' AND (division_id = ", " OR founded IN (", ", ", "))"] =
        "name != 'who?' AND (division_id = $1 OR founded IN ($2, $3))" := by decide +kernel
  refine ⟨hleaves, hsql, ?_, ?_, hnonempty, ?_, hplain .mysql (by decide)⟩
  · rw [harity, hbindings, hvalues]
    rfl
  · rw [hbindings, hvalues]
  · rw [(hnumbered _ hparts).2, hrendered]

end AdminQuery
