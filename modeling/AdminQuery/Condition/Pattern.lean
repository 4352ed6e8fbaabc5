import AdminQuery.Condition.Atom

/-!
# Patterns

In a pattern `%` stands for any text and `_` for any character; a backslash takes the meaning from the
character behind it.

* `escapePattern`: a text as a pattern that matches just that text
* `MatchPosition`: where in a text a value must stand
* `MatchPosition.pattern`: the pattern of a value at a position
* `PatternStyle.predicate?`: the test of a column against a value, as a store wants it
-/

namespace AdminQuery

/-- A character that has a meaning of its own in a pattern. -/
def isPatternSpecial (c : Char) : Bool :=
  c == '\\' || c == '%' || c == '_'

/-- A backslash in front of every special character. -/
def escapePatternChars (cs : List Char) : List Char :=
  cs.flatMap fun c => if isPatternSpecial c then ['\\', c] else [c]

/-- The text as a pattern that matches just that text. -/
def escapePattern (s : String) : String :=
  String.ofList (escapePatternChars s.toList)

/-- Where in a text a value must stand. -/
inductive MatchPosition where
  | exact
  | startsWith
  | endsWith
  | contains
  deriving DecidableEq, Repr

/-- The value with the wildcards of a position. -/
def MatchPosition.pattern (position : MatchPosition) (value : String) : String :=
  match position with
  | exact => value
  | startsWith => value ++ "%"
  | endsWith => "%" ++ value
  | contains => "%" ++ value ++ "%"

/-- How patterns are written for a store. -/
structure PatternStyle where
  dialect : Dialect
  /-- Wildcards in values match only themselves. -/
  escapeWildcards : Bool
  deriving DecidableEq, Repr

/-- The pattern of a value at a position. -/
def PatternStyle.pattern (style : PatternStyle) (position : MatchPosition) (value : String) : String :=
  position.pattern (if style.escapeWildcards then escapePattern value else value)

/-- The test of a column against a value; a blank value matches nothing in particular. -/
def PatternStyle.predicate? (style : PatternStyle) (position : MatchPosition) (value : String) :
    Option Predicate :=
  if Text.isAllBlank value then none
  else
    some (.matchesPattern style.dialect style.escapeWildcards (style.pattern position value))

end AdminQuery
