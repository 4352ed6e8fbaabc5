import AdminQuery.Schema.Column
import AdminQuery.Schema.RecordType
import AdminQuery.Schema.Relationship
import AdminQuery.Text.Identifier

/-!
# Type declarations

* `TypeDeclaration`: a record type with its columns and relationships
* `TypeDeclaration.recordType`: the type that it declares
* `TypeDeclaration.invalidIdentifier?`: the first of its names that may not stand in a condition
* `TypeDeclaration.toJson`, `TypeDeclaration.ofDocument?`: its JSON form
-/

namespace AdminQuery

/-- The declaration of one record type. -/
structure TypeDeclaration where
  name : String
  table : Option String
  primaryKey : Option String
  columns : List Column
  relationships : List Relationship
  deriving DecidableEq, Repr

namespace TypeDeclaration

/-- The declared record type, with table and key by convention where none is given. -/
def recordType (decl : TypeDeclaration) : RecordType :=
  .ofParts decl.name decl.table decl.primaryKey

/-- The names of a declaration that may stand in a condition, in the order they are checked. -/
def identifiers (decl : TypeDeclaration) : List String :=
  [decl.name, decl.recordType.tableName, decl.recordType.primaryKey] ++ decl.columns.map Column.name

/-- The first name that is no identifier. -/
def invalidIdentifier? (decl : TypeDeclaration) : Option String :=
  decl.identifiers.find? fun name => !Text.isIdentifier name

/-- The names of the fields in JSON, in declaration order. -/
def fieldNames : List String :=
  ["name", "table", "primary_key", "columns", "relationships"]

/-- The JSON form; a missing table or key is left out. -/
def toJson (decl : TypeDeclaration) : Json.Value :=
  .object <|
    [("name", .text decl.name)] ++
    Json.Value.textMember? "table" decl.table ++
    Json.Value.textMember? "primary_key" decl.primaryKey ++
    [("columns", .array (decl.columns.map Column.toJson)),
      ("relationships", .array (decl.relationships.map Relationship.toJson))]

/-- The declaration of a JSON document. -/
def ofDocument? (document : Json.Document) : Option TypeDeclaration := do
  match ← document.fields? fieldNames with
  | [name, table, primaryKey, columns, relationships] =>
    return {
      name := ← Json.required? Json.Document.string? name
      table := ← Json.optional? none (Json.Document.nullable? Json.Document.string?) table
      primaryKey := ← Json.optional? none (Json.Document.nullable? Json.Document.string?) primaryKey
      columns := ← Json.optional? [] (Json.Document.list? Column.ofDocument?) columns
      relationships :=
        ← Json.optional? [] (Json.Document.list? Relationship.ofDocument?) relationships }
  | _ => none

end TypeDeclaration

end AdminQuery
