import AdminQuery.Association.Basic
import AdminQuery.Config
import AdminQuery.Text.Identifier

/-!
# Describing associations

What a declaration leaves open follows from naming conventions:

* the target of an association is named like the association, in the singular and in camel case;
* the child key of a type that belongs to another is the role, or else the name, with `_id` added;
* the child key on the far side is the role with `_id` added, or else the owner's foreign key;
* the parent key is the primary key of the parent.

Main definitions:

* `Environment`: what descriptions and conditions are computed from
* `Environment.describe`: one declaration
* `Environment.associations`: all declarations of a record type
-/

namespace AdminQuery

/-- What descriptions and conditions are computed from. -/
structure Environment where
  schema : Schema
  registry : Registry
  config : Config

namespace Relationship

/-- The kind of a declaration; the name, the kind and the polymorphic mark are checked in this order. -/
def checkedKind (decl : Relationship) : Except Misconfiguration AssociationKind :=
  if Text.isAllBlank decl.name then .error .emptyName
  else match decl.kind with
    | none => .error .missingKind
    | some token =>
      match AssociationKind.ofToken? token with
      | none => .error (.unknownKind token)
      | some kind =>
        if decl.polymorphic ∧ kind ≠ .belongsTo then .error (.polymorphicKind kind) else .ok kind

/-- The name of the type on the far side. -/
def targetName (decl : Relationship) : String :=
  decl.className.getD (Inflection.camelCase (Inflection.singular decl.name))

/-- The type on the far side; the owner itself needs no look-up. -/
def target (decl : Relationship) (owner : RecordType) : TypeReference :=
  if decl.targetName = owner.name then .resolved owner else .unresolved decl.targetName

end Relationship

namespace Environment

/-- The primary key of a parent that a declaration does not name: the key of a type at hand, or of a
registered one, and the default for a type that is not registered. -/
def parentKeyOf (env : Environment) : TypeReference → String
  | .resolved record => record.primaryKey
  | .unresolved name =>
    ((env.registry.find? name).map RecordType.primaryKey).getD env.config.defaultPrimaryKey

/-- An association whose owner holds the key. -/
def describeBelongsTo (env : Environment) (owner : RecordType) (decl : Relationship) : Association :=
  let role := decl.role.getD decl.name
  let target := decl.target owner
  { name := decl.name
    title := Inflection.title decl.name
    kind := .belongsTo
    parentKey :=
      [decl.primaryKey.getD
        (if decl.polymorphic then env.config.defaultPrimaryKey else env.parentKeyOf target)]
    childKey := decl.foreignKey.getD (role ++ "_id")
    foreignTypeColumn :=
      if decl.polymorphic then some (decl.foreignType.getD (role ++ "_type")) else none
    polymorphicDiscriminator := none
    role := decl.role
    isPolymorphic := decl.polymorphic
    inverseName := decl.inverseOf
    readOnly := decl.readOnly
    nestedForm := decl.nestedForm
    child := .resolved owner
    parent := if decl.polymorphic then .polymorphic role else .single target }

/-- An association whose key is held elsewhere; only one without a third relation can play a role. -/
def describeOwned (owner : RecordType) (kind : AssociationKind) (decl : Relationship) : Association :=
  let role := if kind = .manyToMany then none else decl.role
  { name := decl.name
    title := Inflection.title decl.name
    kind := kind
    parentKey := [decl.primaryKey.getD owner.primaryKey]
    childKey := decl.foreignKey.getD ((role.map (· ++ "_id")).getD owner.referenceKey)
    foreignTypeColumn := none
    polymorphicDiscriminator := role.map fun _ => owner.name
    role := decl.role
    isPolymorphic := false
    inverseName := decl.inverseOf
    readOnly := decl.readOnly
    nestedForm := decl.nestedForm
    child := decl.target owner
    parent := .single (.resolved owner) }

/-- The association of a declaration whose kind is known, its keys unchecked. -/
def describeKind (env : Environment) (owner : RecordType) (kind : AssociationKind)
    (decl : Relationship) : Association :=
  match kind with
  | .belongsTo => env.describeBelongsTo owner decl
  | kind => describeOwned owner kind decl

/-- The association of a declaration, or the first thing that is wrong with it. -/
def describe? (env : Environment) (owner : RecordType) (decl : Relationship) :
    Except Misconfiguration Association := do
  let kind ← decl.checkedKind
  let a := env.describeKind owner kind decl
  match a.keyColumns.find? fun column => !Text.isIdentifier column with
  | some column => .error (.invalidColumn column)
  | none => .ok a

/-- The association of a declaration of `owner`. -/
def describe (env : Environment) (owner : RecordType) (decl : Relationship) :
    Except AssociationError Association :=
  (env.describe? owner decl).mapError fun reason => .misconfigured owner.name decl.name reason

/-- The associations of a record type in declaration order; the first bad declaration fails. -/
def associations (env : Environment) (record : RecordType) :
    Except AssociationError (List Association) :=
  (env.schema.relationships record).mapM fun decl => env.describe record decl

/-- The first association with a name. -/
def association? (env : Environment) (record : RecordType) (name : String) :
    Except AssociationError (Option Association) :=
  (env.associations record).map fun associations => associations.find? fun a => a.name = name

/-- The label column of the type that `record` belongs to through an association.  A polymorphic
association has no such type, and a type kept in the table of `record` cannot be told from it. -/
def labelColumn? (env : Environment) (record : RecordType) (a : Association) :
    Except AssociationError (Option String) :=
  match a.target? with
  | none => .ok none
  | some reference => do
    let parent ← reference.resolve env.registry
    if parent.tableName = record.tableName then return none
    else
      return (env.schema.labelField? parent env.config.labelFields).map fun label =>
        parent.qualified label.name

end Environment

end AdminQuery
