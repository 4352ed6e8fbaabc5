import AdminQuery.Json.Fields

/-!
# Relationship declarations

* `Relationship`: a relationship as it is declared, before its kind and keys are known to make sense
* `Relationship.toJson`, `Relationship.ofDocument?`: its JSON form
-/

namespace AdminQuery

/-- A relationship as it is declared. -/
structure Relationship where
  /-- The token of the kind, any text. -/
  kind : Option String
  name : String
  className : Option String
  foreignKey : Option String
  primaryKey : Option String
  /-- The role that the declaring type plays in a polymorphic association. -/
  role : Option String
  polymorphic : Bool
  foreignType : Option String
  inverseOf : Option String
  readOnly : Bool
  nestedForm : Bool
  deriving DecidableEq, Repr

namespace Relationship

/-- A relationship with nothing but a kind and a name. -/
def ofKind (kind name : String) : Relationship :=
  { kind := some kind, name, className := none, foreignKey := none, primaryKey := none, role := none,
    polymorphic := false, foreignType := none, inverseOf := none, readOnly := false,
    nestedForm := false }

/-- The names of the fields in JSON, in declaration order. -/
def fieldNames : List String :=
  ["kind", "name", "class_name", "foreign_key", "primary_key", "as", "polymorphic", "foreign_type",
    "inverse_of", "read_only", "nested_form"]

/-- The JSON form; a missing kind is `null`, other missing texts are left out. -/
def toJson (r : Relationship) : Json.Value :=
  .object <|
    [("kind", Json.Value.textOrNull r.kind), ("name", .text r.name)] ++
    Json.Value.textMember? "class_name" r.className ++
    Json.Value.textMember? "foreign_key" r.foreignKey ++
    Json.Value.textMember? "primary_key" r.primaryKey ++
    Json.Value.textMember? "as" r.role ++
    [("polymorphic", .boolean r.polymorphic)] ++
    Json.Value.textMember? "foreign_type" r.foreignType ++
    Json.Value.textMember? "inverse_of" r.inverseOf ++
    [("read_only", .boolean r.readOnly), ("nested_form", .boolean r.nestedForm)]

/-- A text field that may be missing or `null`. -/
def textField? (field : Option Json.Document) : Option (Option String) :=
  Json.optional? none (Json.Document.nullable? Json.Document.string?) field

/-- A truth value that is false when missing. -/
def flagField? (field : Option Json.Document) : Option Bool :=
  Json.optional? false Json.Document.boolean? field

/-- The relationship of a JSON document. -/
def ofDocument? (document : Json.Document) : Option Relationship := do
  match ← document.fields? fieldNames with
  | [kind, name, className, foreignKey, primaryKey, role, polymorphic, foreignType, inverseOf,
      readOnly, nestedForm] =>
    return {
      kind := ← textField? kind
      name := ← Json.required? Json.Document.string? name
      className := ← textField? className
      foreignKey := ← textField? foreignKey
      primaryKey := ← textField? primaryKey
      role := ← textField? role
      polymorphic := ← flagField? polymorphic
      foreignType := ← textField? foreignType
      inverseOf := ← textField? inverseOf
      readOnly := ← flagField? readOnly
      nestedForm := ← flagField? nestedForm }
  | _ => none

end Relationship

end AdminQuery
