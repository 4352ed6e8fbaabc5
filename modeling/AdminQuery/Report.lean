import AdminQuery.Condition.Placeholder
import AdminQuery.Filter.Condition
import AdminQuery.Search

/-!
# Reports

What an administrator's tool is told of a type, in JSON.

* `Environment.typeReport`: the fields and associations of a type
* `Environment.filterReport`, `Environment.searchReport`: the condition of a filter map, and of a search
  term
-/

namespace AdminQuery

/-- What is computed from a catalog when all its types are registered. -/
def Catalog.environment (catalog : Catalog) (config : Config) : Environment :=
  ⟨catalog.schema, catalog.registry, config⟩

/-- The JSON form of an error. -/
def AssociationError.toJson (error : AssociationError) : Json.Value :=
  .object [("code", .text error.code), ("message", .text error.message)]

/-- A value, or the error in its place. -/
def valueOrError (result : Except AssociationError Json.Value) : Json.Value :=
  match result with
  | .ok value => value
  | .error error => .object [("error", error.toJson)]

namespace Environment

/-- The name of the type on the child side of an association. -/
def childReport (env : Environment) (a : Association) : Except AssociationError Json.Value :=
  (a.childType env.registry).map fun record => .text record.name

/-- The names of the types on the parent side of an association. -/
def parentReport (env : Environment) (a : Association) : Except AssociationError Json.Value :=
  (a.parentTypes env.registry env.schema).map fun records =>
    .ofTexts (records.map RecordType.name)

/-- An association with the types on both its sides; a type that is not registered is told in its place. -/
def associationReport (env : Environment) (a : Association) : Json.Value :=
  a.toJson
    |>.withMember "collection" (.boolean a.kind.isCollection)
    |>.withMember "resolved_child_type" (valueOrError (env.childReport a))
    |>.withMember "resolved_parent_types" (valueOrError (env.parentReport a))

/-- The fields and associations of a type. -/
def typeReport (env : Environment) (typeName : String) : Except AssociationError Json.Value := do
  let record ← env.registry.lookup typeName
  let associations ← env.associations record
  return .object [("type", .text typeName), ("table", .text record.tableName),
    ("primary_key", .text record.primaryKey),
    ("fields", .array ((env.schema.fields record).map Field.toJson)),
    ("associations", .array (associations.map env.associationReport))]

/-- A condition, also with its placeholders as the store wants them. -/
def conditionReport (env : Environment) (c : Condition) : Json.Value :=
  .object [("sql", .text c.sql), ("bindings", .array (c.bindings.map Binding.toJson)),
    ("rendered", .text (c.inDialect env.config.dialect)),
    ("dialect", .text env.config.dialect.name)]

/-- The condition of a filter map on a type. -/
def filterReport (env : Environment) (typeName : String) (filters : FilterMap) (now : Instant) :
    Except Halt Json.Value := do
  let record ← (env.registry.lookup typeName).mapError Halt.refused
  let condition ← env.filterRun record filters now
  return env.conditionReport condition

/-- The condition of a search term on a type. -/
def searchReport (env : Environment) (typeName term : String) : Except AssociationError Json.Value := do
  let record ← env.registry.lookup typeName
  let condition ← env.searchCondition record term
  return env.conditionReport condition

end Environment

end AdminQuery
