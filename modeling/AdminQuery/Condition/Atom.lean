import AdminQuery.Condition.Basic
import AdminQuery.Condition.Dialect

/-!
# Atoms

The smallest conditions: one test of one column, in parentheses.

* `Predicate`: what is tested
* `Predicate.sql`, `Predicate.bindings`: the text of a test and the values it binds
* `Atom`: a column with a test
* `Atom.condition`: an atom as a condition
-/

namespace AdminQuery

/-- A test of one column. -/
inductive Predicate where
  | isBlank
  | isPresent
  | isNull
  | isNotNull
  | isEmpty
  | isNotEmpty
  /-- The column matches a pattern without regard to case; `escaped` announces escapes in it. -/
  | matchesPattern (dialect : Dialect) (escaped : Bool) (pattern : String)
  | equals (value : Binding)
  /-- False, or not set at all. -/
  | isFalse
  | oneOf (values : List String)
  | between (low high : Instant)
  | after (t : Instant)
  | before (t : Instant)
  deriving DecidableEq, Repr

namespace Predicate

/-- The text of a test of `column`, without the parentheses around it. -/
def sql (column : String) : Predicate → String
  | isBlank => column ++ " IS NULL OR " ++ column ++ " = ''"
  | isPresent => column ++ " IS NOT NULL AND " ++ column ++ " != ''"
  | isNull => column ++ " IS NULL"
  | isNotNull => column ++ " IS NOT NULL"
  | isEmpty => column ++ " = ''"
  | isNotEmpty => column ++ " != ''"
  | matchesPattern dialect escaped _ =>
    dialect.patternMatch column ++ (if escaped then dialect.escapeClause else "")
  | equals _ => column ++ " = ?"
  | isFalse => column ++ " IS NULL OR " ++ column ++ " = ?"
  | oneOf _ => column ++ " IN (?)"
  | between _ _ => column ++ " BETWEEN ? AND ?"
  | after _ => column ++ " > ?"
  | before _ => column ++ " < ?"

/-- The values that a test binds, in the order of its placeholders. -/
def bindings : Predicate → List Binding
  | isBlank | isPresent | isNull | isNotNull | isEmpty | isNotEmpty => []
  | matchesPattern _ _ pattern => [.text pattern]
  | equals value => [value]
  | isFalse => [.boolean false]
  | oneOf values => [.list values]
  | between low high => [.timestamp low, .timestamp high]
  | after t => [.timestamp t]
  | before t => [.timestamp t]

end Predicate

/-- One test of one column. -/
structure Atom where
  column : String
  predicate : Predicate
  deriving DecidableEq, Repr

/-- The condition of an atom. -/
def Atom.condition (atom : Atom) : Condition :=
  ⟨"(" ++ atom.predicate.sql atom.column ++ ")", atom.predicate.bindings⟩

end AdminQuery
