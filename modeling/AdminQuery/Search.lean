import AdminQuery.Filter.Condition

/-!
# Free-text search

* `Environment.searchColumns`: the columns that a search looks into
* `Environment.searchAtoms`: one match for each of them
* `Environment.searchCondition`: the condition of a search term
-/

namespace AdminQuery

namespace Environment

/-- The textual columns of a record type. -/
def ownSearchColumns (env : Environment) (record : RecordType) : List String :=
  (env.schema.textualFields record).map fun field => record.qualified field.name

/-- The label column that a search looks into for an association; only types that the record type
belongs to are labelled. -/
def searchLabel? (env : Environment) (record : RecordType) (a : Association) :
    Except AssociationError (Option String) :=
  if a.kind = .belongsTo then env.labelColumn? record a else .ok none

/-- The column behind the others, unless it is among them. -/
def addColumn (columns : List String) (column : String) : List String :=
  if columns.contains column then columns else columns ++ [column]

/-- The columns that a search looks into: the textual columns in native order, then the labels of the
types that the record type belongs to, each column once. -/
def searchColumns (env : Environment) (record : RecordType) :
    Except AssociationError (List String) :=
  if env.config.searchBelongsTo then do
    let associations ← env.associations record
    let labels ← associations.mapM fun a => env.searchLabel? record a
    return (labels.filterMap id).foldl addColumn (env.ownSearchColumns record)
  else
    .ok (env.ownSearchColumns record)

/-- The match of a search term against one column. -/
def searchAtom? (env : Environment) (term column : String) : Option Atom :=
  (env.config.patternStyle.predicate? (.ofToken env.config.searchOperator) term).map
    fun predicate => ⟨column, predicate⟩

/-- The matches of a search term; a blank term has none, and needs no associations. -/
def searchAtoms (env : Environment) (record : RecordType) (term : String) :
    Except AssociationError (List Atom) :=
  if Text.isAllBlank term then .ok []
  else do
    let columns ← env.searchColumns record
    return columns.filterMap fun column => env.searchAtom? term column

/-- The condition of a search term: a match in at least one column. -/
def searchCondition (env : Environment) (record : RecordType) (term : String) :
    Except AssociationError Condition :=
  (env.searchAtoms record term).map Condition.ofAlternatives

end Environment

end AdminQuery
