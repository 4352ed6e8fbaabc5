import AdminQuery.Association.Error
import AdminQuery.Schema.Registry
import AdminQuery.Schema.Field

/-!
# References to types

Types on the far side of an association are looked up only when they are asked for.

* `TypeReference`: a type, or the name of one
* `ParentReference`: one type, or every type that plays a role
* `Registry.lookup`, `TypeReference.resolve`, `ParentReference.resolve`: the look-up
-/

namespace AdminQuery

/-- A record type, or the name of one. -/
inductive TypeReference where
  | resolved (record : RecordType)
  | unresolved (name : String)
  deriving DecidableEq, Repr

/-- The parent side of an association. -/
inductive ParentReference where
  | single (reference : TypeReference)
  /-- Every registered type that declares the role. -/
  | polymorphic (role : String)
  deriving DecidableEq, Repr

/-- The type with a name, which must be registered. -/
def Registry.lookup (registry : Registry) (name : String) : Except AssociationError RecordType :=
  match registry.find? name with
  | some record => .ok record
  | none => .error (.unregistered name)

namespace TypeReference

/-- The name of the type. -/
def typeName : TypeReference → String
  | resolved record => record.name
  | unresolved name => name

/-- The type itself, looked up in a registry if only its name is known. -/
def resolve (registry : Registry) : TypeReference → Except AssociationError RecordType
  | resolved record => .ok record
  | unresolved name => registry.lookup name

/-- The JSON form. -/
def toJson : TypeReference → Json.Value
  | resolved record => .object [("state", .text "resolved"), ("type", record.toJson)]
  | unresolved name => .object [("state", .text "unresolved"), ("type", .text name)]

end TypeReference

/-- The declaration owns records that refer to it in the role `role`. -/
def Relationship.declaresRole (decl : Relationship) (role : String) : Bool :=
  let kind := decl.kind.bind AssociationKind.ofToken?
  (kind = some .hasOne || kind = some .hasMany) && decl.role = some role

namespace ParentReference

/-- The parent types; those of a role come in order of registration. -/
def resolve (registry : Registry) (schema : Schema) :
    ParentReference → Except AssociationError (List RecordType)
  | single reference => (reference.resolve registry).map fun record => [record]
  | polymorphic role =>
    .ok (registry.types.filter fun record =>
      (schema.relationships record).any fun decl => decl.declaresRole role)

/-- The JSON form. -/
def toJson : ParentReference → Json.Value
  | single reference => .object [("single", reference.toJson)]
  | polymorphic role => .object [("polymorphic", .object [("role", .text role)])]

end ParentReference

end AdminQuery
