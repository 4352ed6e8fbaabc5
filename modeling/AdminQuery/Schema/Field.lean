import AdminQuery.Schema.Catalog
import AdminQuery.Schema.StorageType

/-!
# Fields of record types

* `Schema`: what a store tells of its record types; a catalog is one
* `Field`: a column as an administrator sees it
* `Schema.fields`: the fields of a type in native order
* `Schema.textualFields`: the fields that a search looks into
* `Schema.labelField?`: the field that labels a record
-/

namespace AdminQuery

/-- What a store tells of its record types, in declaration order. -/
structure Schema where
  columns : RecordType → List Column
  relationships : RecordType → List Relationship

/-- The declarations of a catalog, found by the name of the type. -/
def Catalog.schema (catalog : Catalog) : Schema where
  columns record := ((catalog.get? record.name).map TypeDeclaration.columns).getD []
  relationships record := ((catalog.get? record.name).map TypeDeclaration.relationships).getD []

/-- A column as an administrator sees it. -/
structure Field where
  name : String
  title : String
  storageType : StorageType
  maxLength : Option Nat
  nullable : Bool
  /-- Filled in by the store. -/
  autoGenerated : Bool
  deriving DecidableEq, Repr

namespace Field

/-- The field of a column. -/
def ofColumn (column : Column) : Field where
  name := column.name
  title := Inflection.title column.name
  storageType := .ofSqlType column.sqlType
  maxLength := column.limit
  nullable := column.nullable
  autoGenerated := column.primary || column.autoIncrement

@[simp] theorem name_ofColumn (column : Column) : (ofColumn column).name = column.name := by
  rw [ofColumn]

@[simp] theorem storageType_ofColumn (column : Column) :
    (ofColumn column).storageType = .ofSqlType column.sqlType := by
  rw [ofColumn]

/-- The JSON form. -/
def toJson (field : Field) : Json.Value :=
  .object [("name", .text field.name), ("pretty_name", .text field.title),
    ("storage_type", .text field.storageType.name),
    ("max_length", (field.maxLength.map Json.Value.ofNat).getD .null),
    ("nullable", .boolean field.nullable), ("auto_generated", .boolean field.autoGenerated)]

end Field

namespace Schema

/-- The fields of a record type in native order. -/
def fields (schema : Schema) (record : RecordType) : List Field :=
  (schema.columns record).map Field.ofColumn

/-- The fields that a search looks into. -/
def textualFields (schema : Schema) (record : RecordType) : List Field :=
  (schema.fields record).filter fun field => field.storageType.isTextual

/-- The first field with this name. -/
def field? (schema : Schema) (record : RecordType) (name : String) : Option Field :=
  (schema.fields record).find? fun field => field.name = name

/-- The field that labels a record: the first of `labels` that names a textual field. -/
def labelField? (schema : Schema) (record : RecordType) (labels : List String) : Option Field :=
  labels.findSome? fun label =>
    (schema.fields record).find? fun field => field.name = label && field.storageType.isTextual

/-- Every field is a column, under its name and with its storage type. -/
theorem exists_column_of_mem_fields {schema : Schema} {record : RecordType} {field : Field}
    (h : field ∈ schema.fields record) :
    ∃ column ∈ schema.columns record,
      field.name = column.name ∧ field.storageType = .ofSqlType column.sqlType := by
  obtain ⟨column, hcolumn, heq⟩ := List.mem_map.1 h
  exact ⟨column, hcolumn, by rw [← heq, Field.name_ofColumn], by rw [← heq, Field.storageType_ofColumn]⟩

theorem mem_fields_of_field? {schema : Schema} {record : RecordType} {name : String} {field : Field}
    (h : schema.field? record name = some field) : field ∈ schema.fields record ∧ field.name = name :=
  ⟨List.mem_of_find?_eq_some h, by simpa using List.find?_some h⟩

/-- No field has the name of no column. -/
theorem field?_eq_none_iff {schema : Schema} {record : RecordType} {name : String} :
    schema.field? record name = none ↔ ∀ column ∈ schema.columns record, column.name ≠ name := by
  simp [field?, fields]

end Schema

end AdminQuery
