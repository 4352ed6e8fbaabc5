import AdminQuery.Text.Blank
import AdminQuery.Text.LetterCase

/-!
# Store dialects

Stores differ in how a pattern is matched without regard to case, in how an escaped pattern is
announced, and in how a placeholder is written.

* `Dialect`: the four supported stores
* `Dialect.ofName?`: a dialect from its name
* `Dialect.patternMatch`: the match of a column against one placeholder
* `Dialect.escapeClause`: what follows a match whose pattern was escaped
* `Dialect.placeholder`: the placeholder with a given number
-/

namespace AdminQuery

/-- The dialect of a store. -/
inductive Dialect where
  | postgres
  | mysql
  | sqlite
  | ansi
  deriving DecidableEq, Repr

namespace Dialect

/-- The name of a dialect. -/
def name : Dialect → String
  | postgres => "postgres"
  | mysql => "mysql"
  | sqlite => "sqlite"
  | ansi => "ansi"

/-- The dialect with exactly this name. -/
def ofExactName? (name : String) : Option Dialect :=
  if name = "postgres" then some postgres
  else if name = "mysql" then some mysql
  else if name = "sqlite" then some sqlite
  else if name = "ansi" then some ansi
  else none

/-- The dialect with this name, in any ASCII case and between blanks; `postgresql` is a second name. -/
def ofName? (name : String) : Option Dialect :=
  let plain := Text.asciiLowerCase (Text.trim name)
  if plain = "postgresql" then some postgres else ofExactName? plain

/-- The match of a column against a pattern, without regard to case. -/
def patternMatch (dialect : Dialect) (column : String) : String :=
  match dialect with
  | postgres => column ++ " ILIKE ?"
  | mysql | sqlite => column ++ " LIKE ?"
  | ansi => "LOWER(" ++ column ++ ") LIKE LOWER(?)"

/-- What announces an escaped pattern.  MySQL escapes with a backslash by itself, and would take the
clause for an open literal. -/
def escapeClause : Dialect → String
  | mysql => ""
  | postgres | sqlite | ansi => " ESCAPE '\\'"

/-- The placeholder with the number `index`, counted from 1. -/
def placeholder (dialect : Dialect) (index : Nat) : String :=
  match dialect with
  | postgres => "$" ++ toString index
  | mysql | sqlite | ansi => "?"

end Dialect

end AdminQuery
