import AdminQuery.Association.Reference

/-!
# Associations

* `Association`: a relationship with its kind and keys worked out
* `Association.target?`: the one type on its far side
* `Association.childType`, `Association.parentTypes`: both sides, looked up
* `Association.toJson`: its JSON form
-/

namespace AdminQuery

/-- A relationship of a record type with its kind and keys worked out. -/
structure Association where
  name : String
  title : String
  kind : AssociationKind
  /-- The key columns of the parent side. -/
  parentKey : List String
  /-- The key column of the child side, or of the relation in between. -/
  childKey : String
  /-- The column that names the parent's type, for a polymorphic association. -/
  foreignTypeColumn : Option String
  /-- What the type column of the children holds for this owner. -/
  polymorphicDiscriminator : Option String
  role : Option String
  isPolymorphic : Bool
  inverseName : Option String
  readOnly : Bool
  nestedForm : Bool
  /-- The type that holds `childKey`. -/
  child : TypeReference
  /-- The type, or types, that `parentKey` belongs to. -/
  parent : ParentReference
  deriving DecidableEq, Repr

namespace Association

/-- The one type on the far side; a polymorphic association has none. -/
def target? (a : Association) : Option TypeReference :=
  match a.kind, a.parent with
  | .belongsTo, .single parent => some parent
  | .belongsTo, .polymorphic _ => none
  | _, _ => some a.child

/-- The type on the child side. -/
def childType (a : Association) (registry : Registry) : Except AssociationError RecordType :=
  a.child.resolve registry

/-- The types on the parent side. -/
def parentTypes (a : Association) (registry : Registry) (schema : Schema) :
    Except AssociationError (List RecordType) :=
  a.parent.resolve registry schema

/-- The key columns that a description must be able to name, in the order they are checked. -/
def keyColumns (a : Association) : List String :=
  a.parentKey ++ [a.childKey] ++ a.foreignTypeColumn.toList

/-- The JSON form. -/
def toJson (a : Association) : Json.Value :=
  .object [("name", .text a.name), ("pretty_name", .text a.title),
    ("kind", .text a.kind.name), ("parent_key", .ofTexts a.parentKey),
    ("child_key", .text a.childKey),
    ("foreign_type_column", .textOrNull a.foreignTypeColumn),
    ("polymorphic_discriminator", .textOrNull a.polymorphicDiscriminator),
    ("as_role", .textOrNull a.role), ("is_polymorphic", .boolean a.isPolymorphic),
    ("inverse_name", .textOrNull a.inverseName), ("read_only", .boolean a.readOnly),
    ("nested_form", .boolean a.nestedForm), ("child_type", a.child.toJson),
    ("parent_type", a.parent.toJson)]

end Association

end AdminQuery
