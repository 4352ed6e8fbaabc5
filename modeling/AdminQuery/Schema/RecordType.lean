import AdminQuery.Inflection
import AdminQuery.Json.Value

/-!
# Record types

* `RecordType`: the name of a type with its table and primary key
* `RecordType.ofName`: the type under the naming conventions
* `RecordType.qualified`: a column with the table in front
-/

namespace AdminQuery

/-- A type of records: its name, the table it is kept in, and the key column of that table. -/
structure RecordType where
  name : String
  tableName : String
  primaryKey : String
  deriving DecidableEq, Repr

namespace RecordType

/-- The key column of a type that names no other. -/
def conventionalKey : String := "id"

/-- The type of this name, with table and key by convention. -/
def ofName (name : String) : RecordType :=
  ⟨name, Inflection.tableName name, conventionalKey⟩

/-- The type of this name, with table and key where they are given. -/
def ofParts (name : String) (table primaryKey : Option String) : RecordType :=
  ⟨name, table.getD (Inflection.tableName name), primaryKey.getD conventionalKey⟩

/-- The conventional key column in other tables that refers to this type. -/
def referenceKey (record : RecordType) : String :=
  Inflection.referenceKey record.name

/-- A column with the table in front, such as `teams.name`. -/
def qualified (record : RecordType) (column : String) : String :=
  record.tableName ++ "." ++ column

/-- The JSON form. -/
def toJson (record : RecordType) : Json.Value :=
  .object [("name", .text record.name), ("table_name", .text record.tableName),
    ("primary_key", .text record.primaryKey)]

end RecordType

end AdminQuery
