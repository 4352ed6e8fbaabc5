import AdminQuery.Condition.Binding

/-!
# Conditions

A condition is SQL text with `?` placeholders, together with the values bound to them in order.  What a
user enters only ever travels in the bindings.

* `Condition`: text and bindings; the empty text is the condition that always holds
* `Condition.any`, `Condition.all`: the non-empty parts joined by `OR` and by `AND`
* `Condition.enclosed`: a condition in parentheses

Main statements: `isAlways_enclosed`, that parentheses keep emptiness, and `join_cons_of_isAlways`, that
empty parts leave no trace.
-/

namespace AdminQuery

/-- SQL text with placeholders and the values bound to them. -/
structure Condition where
  sql : String
  bindings : List Binding
  deriving DecidableEq, Repr

namespace Condition

/-- The condition that every row meets. -/
def always : Condition :=
  ⟨"", []⟩

/-- Text without placeholders. -/
def fixed (sql : String) : Condition :=
  ⟨sql, []⟩

/-- A condition with empty text. -/
def isAlways (c : Condition) : Bool :=
  c.sql.isEmpty

/-- The non-empty parts with a separator between them, and their bindings in order. -/
def join (separator : String) (parts : List Condition) : Condition :=
  let present := parts.filter fun part => !part.isAlways
  ⟨separator.intercalate (present.map sql), present.flatMap bindings⟩

/-- At least one of the non-empty parts; no parentheses are added. -/
def any (parts : List Condition) : Condition :=
  join " OR " parts

/-- All of the non-empty parts; no parentheses are added. -/
def all (parts : List Condition) : Condition :=
  join " AND " parts

/-- The condition in parentheses; the condition that always holds stays empty. -/
def enclosed (c : Condition) : Condition :=
  if c.isAlways then c else ⟨"(" ++ c.sql ++ ")", c.bindings⟩

@[simp] theorem isAlways_always : always.isAlways = true := rfl

/-- Parentheses bind nothing. -/
@[simp] theorem bindings_enclosed (c : Condition) : c.enclosed.bindings = c.bindings := by
  rw [enclosed]
  split <;> rfl

/-- Only the condition that always holds stays empty in parentheses. -/
@[simp] theorem isAlways_enclosed (c : Condition) : c.enclosed.isAlways = c.isAlways := by
  rw [enclosed]
  split
  · rfl
  · rename_i h
    have hc : c.isAlways = false := by simpa using h
    rw [hc, isAlways, ← Bool.not_eq_true, String.isEmpty_iff]
    simp

@[simp] theorem join_nil (separator : String) : join separator [] = always := by
  simp [join, always]

/-- A part that always holds leaves no trace in a join. -/
theorem join_cons_of_isAlways {c : Condition} (h : c.isAlways = true) (separator : String)
    (parts : List Condition) : join separator (c :: parts) = join separator parts := by
  simp [join, h]

end Condition

end AdminQuery
