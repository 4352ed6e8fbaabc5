import AdminQuery.Json.Value

/-!
# Sort order

* `SortDirection`: up or down
* `SortOrder`: a column with a direction
* `SortOrder.sql`: the text of a sort order
-/

namespace AdminQuery

/-- The direction of a sort order; lists run down unless reversed. -/
inductive SortDirection where
  | ascending
  | descending
  deriving DecidableEq, Repr

namespace SortDirection

/-- The direction where none is asked for. -/
def default : SortDirection := descending

/-- The default direction, or the other one. -/
def ofReverse (reverse : Bool) : SortDirection :=
  if reverse then ascending else default

/-- The short name of a direction. -/
def name : SortDirection → String
  | ascending => "asc"
  | descending => "desc"

/-- The keyword of a direction. -/
def keyword : SortDirection → String
  | ascending => "ASC"
  | descending => "DESC"

end SortDirection

/-- A column with a direction. -/
structure SortOrder where
  field : String
  direction : SortDirection
  deriving DecidableEq, Repr

namespace SortOrder

/-- The text of a sort order, such as `teams.name DESC`. -/
def sql (order : SortOrder) : String :=
  order.field ++ " " ++ order.direction.keyword

/-- The JSON form. -/
def toJson (order : SortOrder) : Json.Value :=
  .object [("field", .text order.field), ("direction", .text order.direction.name)]

end SortOrder

end AdminQuery
