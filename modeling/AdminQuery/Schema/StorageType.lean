import AdminQuery.Text.Blank
import AdminQuery.Text.LetterCase

/-!
# Storage types

The type strings of stores are many; filters tell eleven kinds of column apart.

* `StorageType`: the kinds
* `StorageType.ofSqlType`: the kind of a store's type string
* `StorageType.isTextual`, `StorageType.isTemporal`: the kinds that are matched by patterns, and by dates
-/

namespace AdminQuery

/-- The kind of data that a column holds. -/
inductive StorageType where
  | string
  | text
  | integer
  | float
  | decimal
  | boolean
  | enum
  | date
  | datetime
  | timestamp
  | binary
  deriving DecidableEq, Repr

namespace StorageType

/-- The name of a kind. -/
def name : StorageType → String
  | string => "string"
  | text => "text"
  | integer => "integer"
  | float => "float"
  | decimal => "decimal"
  | boolean => "boolean"
  | enum => "enum"
  | date => "date"
  | datetime => "datetime"
  | timestamp => "timestamp"
  | binary => "binary"

/-- All kinds. -/
def all : List StorageType :=
  [string, text, integer, float, decimal, boolean, enum, date, datetime, timestamp, binary]

/-- The kind with this name. -/
def ofName? (name : String) : Option StorageType :=
  all.find? fun kind => kind.name = name

/-- The type strings, without length, that stores use for each kind. -/
def sqlNames : List (StorageType × List String) :=
  [(string, ["string", "varchar", "character varying", "char", "character", "nvarchar", "citext",
      "uuid"]),
   (text, ["text", "tinytext", "mediumtext", "longtext", "clob"]),
   (integer, ["integer", "int", "int2", "int4", "int8", "smallint", "mediumint", "bigint", "tinyint",
      "serial", "bigserial"]),
   (float, ["float", "real", "double", "double precision", "float4", "float8"]),
   (decimal, ["decimal", "numeric", "money"]),
   (boolean, ["boolean", "bool"]),
   (enum, ["enum"]),
   (date, ["date"]),
   (datetime, ["datetime"]),
   (timestamp, ["timestamp", "timestamptz", "timestamp with time zone",
      "timestamp without time zone"]),
   (binary, ["binary", "varbinary", "blob", "longblob", "bytea"])]

/-- The kind of a type string that has no length; an unknown one counts as a string. -/
def ofBaseName (base : String) : StorageType :=
  ((sqlNames.find? fun entry => entry.2.contains base).map Prod.fst).getD string

/-- The kind of a store's type string, whatever its case, length and outer blanks. -/
def ofSqlType (raw : String) : StorageType :=
  let lowered := Text.asciiLowerCase (Text.trim raw)
  if lowered = "tinyint(1)" then boolean
  else
    let base := lowered.toList.takeWhile (· ≠ '(')
    ofBaseName (String.ofList (Text.trimChars base))

/-- Matched by patterns, and searched. -/
def isTextual : StorageType → Bool
  | string | text => true
  | _ => false

/-- Matched by dates. -/
def isTemporal : StorageType → Bool
  | date | datetime | timestamp => true
  | _ => false

end StorageType

end AdminQuery
