import AdminQuery.Json.Fields

/-!
# Columns

* `Column`: a column as the store declares it
* `Column.toJson`, `Column.ofDocument?`: its JSON form
-/

namespace AdminQuery

/-- A column as the store declares it. -/
structure Column where
  name : String
  sqlType : String
  limit : Option Nat
  nullable : Bool
  primary : Bool
  autoIncrement : Bool
  deriving DecidableEq, Repr

namespace Column

/-- A nullable column. -/
def ofNameType (name sqlType : String) : Column :=
  ⟨name, sqlType, none, true, false, false⟩

/-- The column with a length limit. -/
def withLimit (column : Column) (limit : Nat) : Column :=
  { column with limit := some limit }

/-- The column without nulls. -/
def withoutNull (column : Column) : Column :=
  { column with nullable := false }

/-- The column as primary key, which holds no nulls. -/
def asPrimaryKey (column : Column) : Column :=
  { column with primary := true, nullable := false }

/-- The column as one that the store fills in. -/
def asAutoIncrement (column : Column) : Column :=
  { column with autoIncrement := true }

/-- The greatest length limit. -/
def maxLimit : Int := 4294967295

/-- The names of the fields in JSON, in declaration order. -/
def fieldNames : List String :=
  ["name", "type", "limit", "null", "primary", "auto_increment"]

/-- The JSON form; no limit is written as no member. -/
def toJson (column : Column) : Json.Value :=
  .object <|
    [("name", .text column.name), ("type", .text column.sqlType)] ++
    (column.limit.map fun n => ("limit", Json.Value.ofNat n)).toList ++
    [("null", .boolean column.nullable), ("primary", .boolean column.primary),
      ("auto_increment", .boolean column.autoIncrement)]

/-- A length limit in JSON. -/
def limitOfDocument? (document : Json.Document) : Option Nat :=
  document.integer?.bind fun n => if 0 ≤ n ∧ n ≤ maxLimit then some n.toNat else none

/-- The column of a JSON document. -/
def ofDocument? (document : Json.Document) : Option Column := do
  match ← document.fields? fieldNames with
  | [name, sqlType, limit, nullable, primary, autoIncrement] =>
    return {
      name := ← Json.required? Json.Document.string? name
      sqlType := ← Json.required? Json.Document.string? sqlType
      limit := ← Json.optional? none (Json.Document.nullable? limitOfDocument?) limit
      nullable := ← Json.optional? true Json.Document.boolean? nullable
      primary := ← Json.optional? false Json.Document.boolean? primary
      autoIncrement := ← Json.optional? false Json.Document.boolean? autoIncrement }
  | _ => none

end Column

end AdminQuery
