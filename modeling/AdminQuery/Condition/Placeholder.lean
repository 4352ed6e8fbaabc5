import AdminQuery.Condition.Basic
import AdminQuery.Condition.Dialect

/-!
# Placeholders

A placeholder is a `?` outside literals; a literal runs from one single quote to the next.

* `Condition.arity`: how many placeholders a condition has
* `Condition.inDialect`: its text with the placeholders of a dialect, numbered from 1
-/

namespace AdminQuery

namespace Placeholder

/-- The quote that opens and closes literals. -/
def quote : Char := '\x27'

/-- The placeholders of a text; `literal` says that it starts inside a literal. -/
def count (literal : Bool) : List Char → Nat
  | [] => 0
  | c :: rest =>
    if c = quote then count (!literal) rest
    else if c = '?' ∧ literal = false then count literal rest + 1
    else count literal rest

/-- The text with its placeholders written by `write`, the first of them with the number `index`. -/
def render (write : Nat → List Char) (literal : Bool) (index : Nat) : List Char → List Char
  | [] => []
  | c :: rest =>
    if c = quote then c :: render write (!literal) index rest
    else if c = '?' ∧ literal = false then write index ++ render write literal (index + 1) rest
    else c :: render write literal index rest

end Placeholder

namespace Condition

/-- The number of placeholders. -/
def arity (c : Condition) : Nat :=
  Placeholder.count false c.sql.toList

/-- The text with the placeholders of `dialect`. -/
def inDialect (c : Condition) (dialect : Dialect) : String :=
  String.ofList
    (Placeholder.render (fun index => (dialect.placeholder index).toList) false 1 c.sql.toList)

end Condition

end AdminQuery
