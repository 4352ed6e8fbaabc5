import AdminQuery.Listing.SortOrder
import AdminQuery.Search

/-!
# List queries

* `ListRequest`: what a list is asked to show
* `ListQuery`: table, condition, order and associations to load
* `Environment.listQuery`: the query of a request
* `Environment.listRun`: the same, with the filters on which the program stops
-/

namespace AdminQuery

/-- What a list is asked to show. -/
structure ListRequest where
  /-- A search term. -/
  query : Option String
  filters : FilterMap
  /-- Only records with these primary keys, if any are given. -/
  bulkIds : List String
  sort : Option String
  sortReverse : Bool
  /-- The associations to load with the records. -/
  includes : List String
  deriving DecidableEq, Repr

/-- What a store needs to fetch a list. -/
structure ListQuery where
  table : String
  condition : Condition
  sort : SortOrder
  includes : List String
  deriving DecidableEq, Repr

namespace Environment

/-- Refuses an association to load that is not declared; nothing is described when none is asked for. -/
def checkIncludes (env : Environment) (record : RecordType) (includes : List String) :
    Except AssociationError (List String) :=
  if includes.isEmpty then .ok []
  else do
    let associations ← env.associations record
    match includes.find? fun name => !associations.any fun a => a.name = name with
    | some name => .error (.misconfigured record.name name .undeclared)
    | none => .ok includes

/-- The atom for given primary keys; none given is no restriction. -/
def bulkAtom? (record : RecordType) (ids : List String) : Option Atom :=
  if ids.isEmpty then none else some ⟨record.qualified record.primaryKey, .oneOf ids⟩

/-- The condition for given primary keys. -/
def bulkCondition (record : RecordType) (ids : List String) : Condition :=
  ((bulkAtom? record ids).map Atom.condition).getD .always

/-- The column to sort by: the one asked for if there is such a column, else the primary key. -/
def sortColumn (env : Environment) (record : RecordType) (sort : Option String) : String :=
  (sort.filter fun name => (env.schema.field? record name).isSome).getD record.primaryKey

/-- The order of a list. -/
def listSort (env : Environment) (record : RecordType) (request : ListRequest) : SortOrder :=
  ⟨record.qualified (env.sortColumn record request.sort), .ofReverse request.sortReverse⟩

/-- The condition of a search term that may be missing. -/
def optionalSearch (env : Environment) (record : RecordType) (term : Option String) :
    Except AssociationError Condition :=
  match term with
  | some term => env.searchCondition record term
  | none => .ok .always

/-- The query of a list with these associations to load, search and filters. -/
def queryOf (env : Environment) (record : RecordType) (request : ListRequest) (includes : List String)
    (search filters : Condition) : ListQuery where
  table := record.tableName
  condition := .all [search.enclosed, filters.enclosed, bulkCondition record request.bulkIds]
  sort := env.listSort record request
  includes := includes

/-- The query of a list.  The associations to load are checked first, then come search and filters. -/
def listQuery (env : Environment) (record : RecordType) (request : ListRequest) (now : Instant) :
    Except AssociationError ListQuery := do
  let includes ← env.checkIncludes record request.includes
  let search ← env.optionalSearch record request.query
  let filters ← env.filterCondition record request.filters now
  return env.queryOf record request includes search filters

/-- The query of a list, made in the same order until one of its parts has none. -/
def listRun (env : Environment) (record : RecordType) (request : ListRequest) (now : Instant) :
    Except Halt ListQuery := do
  let includes ← (env.checkIncludes record request.includes).mapError Halt.refused
  let search ← (env.optionalSearch record request.query).mapError Halt.refused
  let filters ← env.filterRun record request.filters now
  return env.queryOf record request includes search filters

end Environment

end AdminQuery
