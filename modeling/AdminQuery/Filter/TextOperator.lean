import AdminQuery.Condition.Pattern

/-!
# Text operators

* `MatchPosition.ofToken`: the position that an operator token asks for
* `MatchPosition.ofOperator`: the position of an operator that may be missing
* `MatchPosition.isKnown`: the tokens that name a position
-/

namespace AdminQuery.MatchPosition

/-- The position that a token asks for; an unknown one asks for any place. -/
def ofToken (token : String) : MatchPosition :=
  let plain := Text.trim token
  if plain = "is" ∨ plain = "=" then exact
  else if plain = "starts_with" then startsWith
  else if plain = "ends_with" then endsWith
  else contains

/-- The position that an operator asks for; none at all asks for any place. -/
def ofOperator (operator : Option String) : MatchPosition :=
  (operator.map ofToken).getD contains

/-- The tokens that name a position. -/
def knownTokens : List String :=
  ["default", "like", "is", "=", "starts_with", "ends_with"]

/-- A token that names a position, blanks around it aside. -/
def isKnown (token : String) : Bool :=
  knownTokens.contains (Text.trim token)

end AdminQuery.MatchPosition
