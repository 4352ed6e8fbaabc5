import AdminQuery.Collection.Keyed
import AdminQuery.Schema.Catalog

/-!
# The registry of record types

* `Registry`: record types in order of registration, each name once
* `Registry.register`, `Registry.unregister`: one type in, one type out
* `Registry.find?`: the type with a name
* `Catalog.registry`: the types of a catalog, registered in order
-/

namespace AdminQuery

/-- Record types in order of registration. -/
structure Registry where
  types : List RecordType
  deriving DecidableEq, Repr

namespace Registry

/-- The registry without types. -/
def empty : Registry :=
  ⟨[]⟩

/-- The type with a name. -/
def find? (registry : Registry) (name : String) : Option RecordType :=
  Keyed.get? RecordType.name registry.types name

/-- A type with this name is registered. -/
def contains (registry : Registry) (name : String) : Bool :=
  (registry.find? name).isSome

/-- Registers a type; a type of that name is replaced where it stands. -/
def register (registry : Registry) (record : RecordType) : Registry :=
  ⟨Keyed.upsert RecordType.name record registry.types⟩

/-- The name of a type is new to the registry. -/
def isNew (registry : Registry) (record : RecordType) : Bool :=
  !registry.contains record.name

/-- Removes the type with a name. -/
def unregister (registry : Registry) (name : String) : Registry :=
  ⟨Keyed.erase RecordType.name name registry.types⟩

/-- Types registered one after the other. -/
def ofList (records : List RecordType) : Registry :=
  records.foldl register empty

end Registry

/-- The types of a catalog, registered in order. -/
def Catalog.registry (catalog : Catalog) : Registry :=
  .ofList catalog.recordTypes

end AdminQuery
