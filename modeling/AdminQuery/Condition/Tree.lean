import AdminQuery.Condition.Basic

/-!
# Condition trees

* `ConditionTree`: how a condition is put together
* `ConditionTree.build`: the condition that a tree describes
* `ConditionTree.leaves`: its leaves from left to right
* `ConditionTree.induction`: the induction over trees, with one hypothesis for all parts of a join
-/

namespace AdminQuery

/-- A condition as it is put together. -/
inductive ConditionTree where
  | always
  | leaf (condition : Condition)
  | any (parts : List ConditionTree)
  | all (parts : List ConditionTree)
  | enclosed (part : ConditionTree)

namespace ConditionTree

mutual

/-- The condition that a tree describes. -/
def build : ConditionTree → Condition
  | always => .always
  | leaf condition => condition
  | any parts => .any (buildAll parts)
  | all parts => .all (buildAll parts)
  | enclosed part => part.build.enclosed

/-- The conditions that trees describe. -/
def buildAll : List ConditionTree → List Condition
  | [] => []
  | part :: rest => part.build :: buildAll rest

end

mutual

/-- The leaves of a tree from left to right. -/
def leaves : ConditionTree → List Condition
  | always => []
  | leaf condition => [condition]
  | any parts => leavesAll parts
  | all parts => leavesAll parts
  | enclosed part => part.leaves

/-- The leaves of trees from left to right. -/
def leavesAll : List ConditionTree → List Condition
  | [] => []
  | part :: rest => part.leaves ++ leavesAll rest

end

theorem buildAll_eq_map (parts : List ConditionTree) : buildAll parts = parts.map build := by
  induction parts with
  | nil => rfl
  | cons part rest ih => rw [buildAll, ih, List.map_cons]

theorem leavesAll_eq_flatMap (parts : List ConditionTree) :
    leavesAll parts = parts.flatMap leaves := by
  induction parts with
  | nil => rfl
  | cons part rest ih => rw [leavesAll, ih, List.flatMap_cons]

@[simp] theorem build_any (parts : List ConditionTree) :
    (any parts).build = .any (parts.map build) := by
  rw [build, buildAll_eq_map]

@[simp] theorem build_all (parts : List ConditionTree) :
    (all parts).build = .all (parts.map build) := by
  rw [build, buildAll_eq_map]

@[simp] theorem leaves_any (parts : List ConditionTree) :
    (any parts).leaves = parts.flatMap leaves := by
  rw [leaves, leavesAll_eq_flatMap]

@[simp] theorem leaves_all (parts : List ConditionTree) :
    (all parts).leaves = parts.flatMap leaves := by
  rw [leaves, leavesAll_eq_flatMap]

/-- **What holds of a tree when it holds of its parts holds of every tree.** -/
@[elab_as_elim, induction_eliminator]
theorem induction {motive : ConditionTree → Prop} (always : motive always)
    (leaf : ∀ condition, motive (leaf condition))
    (any : ∀ parts, (∀ part ∈ parts, motive part) → motive (any parts))
    (all : ∀ parts, (∀ part ∈ parts, motive part) → motive (all parts))
    (enclosed : ∀ part, motive part → motive (enclosed part)) : ∀ tree, motive tree
  | .always => always
  | .leaf condition => leaf condition
  | .any parts => any parts fun part _ => induction always leaf any all enclosed part
  | .all parts => all parts fun part _ => induction always leaf any all enclosed part
  | .enclosed part => enclosed part (induction always leaf any all enclosed part)

end ConditionTree

end AdminQuery
