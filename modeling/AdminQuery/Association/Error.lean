import AdminQuery.Association.Kind

/-!
# Association errors

* `Misconfiguration`: what is wrong with a declaration
* `AssociationError`: a type that is not registered, or a declaration that makes no sense
-/

namespace AdminQuery

/-- What is wrong with a declaration. -/
inductive Misconfiguration where
  | emptyName
  | missingKind
  | unknownKind (token : String)
  /-- Only an association that belongs to its parent can be polymorphic. -/
  | polymorphicKind (kind : AssociationKind)
  | invalidColumn (column : String)
  /-- An association that is to be loaded was never declared. -/
  | undeclared
  deriving DecidableEq, Repr

/-- Why associations cannot be described or resolved. -/
inductive AssociationError where
  | unregistered (typeName : String)
  | misconfigured (owner association : String) (reason : Misconfiguration)
  deriving DecidableEq, Repr

namespace Misconfiguration

/-- The wording of a reason. -/
def message : Misconfiguration → String
  | emptyName => "association name is empty"
  | missingKind => "missing association kind"
  | unknownKind token => "unknown association kind '" ++ token ++ "'"
  | polymorphicKind kind => "polymorphic is only valid on belongs_to, not " ++ kind.name
  | invalidColumn column => "'" ++ column ++ "' is not a valid column name"
  | undeclared => "cannot eager-load an undeclared association"

end Misconfiguration

namespace AssociationError

/-- The code of an error. -/
def code : AssociationError → String
  | unregistered _ => "ADMIN_RESOLUTION_FAILED"
  | misconfigured .. => "ADMIN_CONFIGURATION_INVALID"

/-- The wording of an error. -/
def message : AssociationError → String
  | unregistered typeName => "Record type '" ++ typeName ++ "' is not registered"
  | misconfigured owner association reason =>
    "Association '" ++ association ++ "' on '" ++ owner ++ "' is misconfigured: " ++ reason.message

end AssociationError

end AdminQuery
