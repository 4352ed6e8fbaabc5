import AdminQuery.Filter.Entry

/-!
# Filter maps

* `FieldGroups`: the entries for one key, each under a group
* `FilterMap`: the keys in order, each with its entries
* `FilterMap.push`: one more entry
-/

namespace AdminQuery

/-- The entries for one key, each with the name of its group. -/
structure FieldGroups where
  /-- A column, an association, or an association and a column with a dot between them. -/
  field : String
  groups : List (String × FilterEntry)
  deriving DecidableEq, Repr

/-- The filters of a request, keys in order. -/
structure FilterMap where
  fields : List FieldGroups
  deriving DecidableEq, Repr

namespace FilterMap

/-- The filter map without keys. -/
def empty : FilterMap :=
  ⟨[]⟩

/-- The filters with one more group under a key, which joins the groups the key has. -/
def pushGroup (field : String) (group : String × FilterEntry) : List FieldGroups → List FieldGroups
  | [] => [⟨field, [group]⟩]
  | held :: rest =>
    if held.field = field then { held with groups := held.groups ++ [group] } :: rest
    else held :: pushGroup field group rest

/-- One more entry: it joins the entries of its key, or starts a new key at the end. -/
def push (filters : FilterMap) (field group : String) (entry : FilterEntry) : FilterMap :=
  ⟨pushGroup field (group, entry) filters.fields⟩

/-- No keys. -/
def isEmpty (filters : FilterMap) : Bool :=
  filters.fields.isEmpty

end FilterMap

end AdminQuery
