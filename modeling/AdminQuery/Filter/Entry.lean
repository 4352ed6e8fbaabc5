/-!
# Filter entries

* `FilterEntry`: an operator and a value as a user entered them
-/

namespace AdminQuery

/-- An operator and a value as a user entered them; either may be a control token. -/
structure FilterEntry where
  operator : Option String
  value : String
  deriving DecidableEq, Repr

end AdminQuery
