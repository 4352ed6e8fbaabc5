import AdminQuery.Json.Reader
import AdminQuery.Schema.TypeDeclaration

/-!
# Catalogs

* `Catalog`: type declarations in the order they were registered, each type once
* `CatalogError`: why a catalog is refused
* `Catalog.register`: one more declaration
* `Catalog.get?`: the declaration of a type
* `Catalog.ofText`: the catalog of a JSON text
-/

namespace AdminQuery

/-- Type declarations in the order they were registered. -/
structure Catalog where
  types : List TypeDeclaration
  deriving DecidableEq, Repr

/-- Why the text of a catalog gives none. -/
inductive CatalogFault where
  /-- The text could not be obtained, or is not UTF-8. -/
  | unreadable
  /-- The text is not the JSON form of declarations. -/
  | notJson
  deriving DecidableEq, Repr

/-- Why a catalog or a declaration is refused. -/
inductive CatalogError where
  | malformed (source : String) (fault : CatalogFault)
  | duplicateType (typeName : String)
  | invalidIdentifier (typeName identifier : String)
  deriving DecidableEq, Repr

namespace CatalogFault

/-- The wording of a fault. -/
def message : CatalogFault → String
  | unreadable => "Failed to read file: no readable text"
  | notJson => "Invalid JSON: not a catalog"

end CatalogFault

namespace CatalogError

/-- The code of an error. -/
def code : CatalogError → String
  | malformed .. => "ADMIN_CATALOG_MALFORMED"
  | duplicateType _ => "ADMIN_DUPLICATE_TYPE"
  | invalidIdentifier .. => "ADMIN_INVALID_IDENTIFIER"

/-- The wording of an error. -/
def message : CatalogError → String
  | malformed source fault => "Malformed catalog '" ++ source ++ "': " ++ fault.message
  | duplicateType typeName => "Record type '" ++ typeName ++ "' is declared more than once"
  | invalidIdentifier typeName identifier =>
    "Record type '" ++ typeName ++ "' uses invalid identifier '" ++ identifier ++ "'"

/-- The type that an error is about. -/
def typeName? : CatalogError → Option String
  | malformed .. => none
  | duplicateType typeName => some typeName
  | invalidIdentifier typeName _ => some typeName

/-- The wording with the code in front. -/
def display (error : CatalogError) : String :=
  "[" ++ error.code ++ "] " ++ error.message

end CatalogError

/-- Refuses a declaration with a name that may not stand in a condition. -/
def TypeDeclaration.validate (decl : TypeDeclaration) : Except CatalogError Unit :=
  match decl.invalidIdentifier? with
  | some identifier => .error (.invalidIdentifier decl.name identifier)
  | none => .ok ()

namespace Catalog

/-- The catalog without types. -/
def empty : Catalog :=
  ⟨[]⟩

/-- The declaration of a type. -/
def get? (catalog : Catalog) (name : String) : Option TypeDeclaration :=
  catalog.types.find? fun decl => decl.name = name

/-- One more declaration: its names must be identifiers, and its type not yet declared. -/
def register (catalog : Catalog) (decl : TypeDeclaration) : Except CatalogError Catalog := do
  decl.validate
  if (catalog.get? decl.name).isSome then .error (.duplicateType decl.name)
  else .ok ⟨catalog.types ++ [decl]⟩

/-- Declarations registered one after the other; the first refusal is final. -/
def registerAll (catalog : Catalog) : List TypeDeclaration → Except CatalogError Catalog
  | [] => .ok catalog
  | decl :: rest => do (← catalog.register decl).registerAll rest

/-- The record type with this name. -/
def recordType? (catalog : Catalog) (name : String) : Option RecordType :=
  (catalog.get? name).map TypeDeclaration.recordType

/-- The declared record types in order. -/
def recordTypes (catalog : Catalog) : List RecordType :=
  catalog.types.map TypeDeclaration.recordType

/-- The declarations of a JSON document; no `types` at all is an empty catalog. -/
def declarationsOfDocument? (document : Json.Document) : Option (List TypeDeclaration) := do
  match ← document.fields? ["types"] with
  | [types] => Json.optional? [] (Json.Document.list? TypeDeclaration.ofDocument?) types
  | _ => none

/-- The catalog of a JSON document from `source`. -/
def ofDocument (source : String) (document : Json.Document) : Except CatalogError Catalog :=
  match declarationsOfDocument? document with
  | some decls => empty.registerAll decls
  | none => .error (.malformed source .notJson)

/-- The catalog of a JSON text from `source`. -/
def ofTextFrom (source text : String) : Except CatalogError Catalog :=
  match Json.Document.ofText? text with
  | some document => ofDocument source document
  | none => .error (.malformed source .notJson)

/-- The source named for text that comes from no file. -/
def inMemory : String := "<in-memory>"

/-- The catalog of a JSON text. -/
def ofText (text : String) : Except CatalogError Catalog :=
  ofTextFrom inMemory text

end Catalog

end AdminQuery
