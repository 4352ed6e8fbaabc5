import AdminQuery.Condition.Atom
import AdminQuery.Filter.Entry
import AdminQuery.Text.Blank

/-!
# Control tokens

Tokens that stand in the operator or in the value of a filter and settle it without any value.

* `ControlToken`: the tokens, in order of precedence
* `FilterEntry.controlToken?`: the token that settles an entry, if one of its two slots holds one
* `ControlToken.predicate?`: the test that a token stands for
-/

namespace AdminQuery

/-- A token that settles a filter; earlier tokens win over later ones. -/
inductive ControlToken where
  | discard
  | blank
  | present
  | null
  | notNull
  | empty
  | notEmpty
  deriving DecidableEq, Repr

namespace ControlToken

/-- The place of a token in the order of precedence. -/
def rank : ControlToken → Nat
  | discard => 0
  | blank => 1
  | present => 2
  | null => 3
  | notNull => 4
  | empty => 5
  | notEmpty => 6

/-- The token that a text is, blanks around it aside. -/
def ofText? (s : String) : Option ControlToken :=
  let plain := Text.trim s
  if plain = "_discard" then some discard
  else if plain = "_blank" then some blank
  else if plain = "_present" then some present
  else if plain = "_null" then some null
  else if plain = "_not_null" then some notNull
  else if plain = "_empty" then some empty
  else if plain = "_not_empty" then some notEmpty
  else none

/-- The earlier of two tokens, or the only one. -/
def earlier? : Option ControlToken → Option ControlToken → Option ControlToken
  | some a, some b => some (if b.rank < a.rank then b else a)
  | some a, none => some a
  | none, b => b

/-- The test that a token stands for; a discarded filter has none. -/
def predicate? : ControlToken → Option Predicate
  | discard => none
  | blank => some .isBlank
  | present => some .isPresent
  | null => some .isNull
  | notNull => some .isNotNull
  | empty => some .isEmpty
  | notEmpty => some .isNotEmpty

end ControlToken

/-- The token that settles an entry: the earlier one when both slots hold a token. -/
def FilterEntry.controlToken? (entry : FilterEntry) : Option ControlToken :=
  ControlToken.earlier? (ControlToken.ofText? entry.value) (entry.operator.bind ControlToken.ofText?)

end AdminQuery
