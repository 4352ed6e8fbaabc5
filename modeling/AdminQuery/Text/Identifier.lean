/-!
# Identifiers

Names of tables, columns and types are the only outside text that may stand in a condition, and only
in this form.

* `Text.isIdentifier`: an ASCII letter or underscore, then letters, digits and underscores
-/

namespace AdminQuery.Text

/-- A character that may start an identifier. -/
def isIdentifierStart (c : Char) : Bool :=
  c.isAlpha || c == '_'

/-- A character that may follow the start of an identifier. -/
def isIdentifierRest (c : Char) : Bool :=
  c.isAlphanum || c == '_'

/-- The characters of an identifier. -/
def isIdentifierChars : List Char → Bool
  | [] => false
  | c :: rest => isIdentifierStart c && rest.all isIdentifierRest

/-- A bare identifier, such as `division_id`. -/
def isIdentifier (s : String) : Bool :=
  isIdentifierChars s.toList

end AdminQuery.Text
