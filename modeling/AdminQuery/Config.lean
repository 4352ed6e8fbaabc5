import AdminQuery.Condition.Dialect
import AdminQuery.Filter.TextOperator
import AdminQuery.Json.Fields
import AdminQuery.Json.Reader
import AdminQuery.Text.Identifier

/-!
# Configuration

* `Config`: the settings that all conditions of a store share
* `ConfigError`: why a configuration is refused
* `Config.validate`: the checks on values
* `Config.ofText`: the configuration of a JSON text, every field of which may be left out
-/

namespace AdminQuery

/-- The settings that all conditions of a store share. -/
structure Config where
  dialect : Dialect
  /-- The columns that label a record, in order of preference. -/
  labelFields : List String
  /-- The text operator of searches. -/
  searchOperator : String
  /-- Searches look into the labels of the records that a record belongs to. -/
  searchBelongsTo : Bool
  escapeLikeWildcards : Bool
  /-- The primary key of types that cannot be consulted. -/
  defaultPrimaryKey : String
  deriving DecidableEq, Repr

/-- Why the value of a setting is refused. -/
inductive ConfigFault where
  | labelField (label : String)
  | searchOperator (operator : String)
  | defaultPrimaryKey (key : String)
  deriving DecidableEq, Repr

/-- Why a configuration is refused. -/
inductive ConfigError where
  /-- The text could not be obtained, or is not UTF-8. -/
  | unreadable (source : String)
  /-- The text is not the JSON form of a configuration. -/
  | notJson
  | invalid (fault : ConfigFault)
  deriving DecidableEq, Repr

namespace ConfigFault

/-- The wording of a fault. -/
def message : ConfigFault → String
  | labelField label => "label field '" ++ label ++ "' is not a valid column name"
  | searchOperator operator =>
    "search_operator '" ++ operator ++
      "' must be one of default, like, is, starts_with, ends_with"
  | defaultPrimaryKey key => "default_primary_key '" ++ key ++ "' is not a valid column name"

end ConfigFault

namespace ConfigError

/-- The wording of an error. -/
def message : ConfigError → String
  | unreadable source => "Failed to read config '" ++ source ++ "': no readable text"
  | notJson => "Invalid config JSON: not a configuration"
  | invalid fault => "Invalid config: " ++ fault.message

end ConfigError

namespace Config

/-- The settings of a dialect where nothing else is said. -/
def ofDialect (dialect : Dialect) : Config where
  dialect := dialect
  labelFields := ["name", "title"]
  searchOperator := "default"
  searchBelongsTo := true
  escapeLikeWildcards := false
  defaultPrimaryKey := "id"

/-- The settings where nothing is said. -/
def default : Config :=
  ofDialect .sqlite

/-- How patterns are written for the store. -/
def patternStyle (config : Config) : PatternStyle :=
  ⟨config.dialect, config.escapeLikeWildcards⟩

/-- The first value that is refused: labels, the search operator, then the default key. -/
def fault? (config : Config) : Option ConfigFault :=
  match config.labelFields.find? fun label => !Text.isIdentifier label with
  | some label => some (.labelField label)
  | none =>
    if !MatchPosition.isKnown config.searchOperator then some (.searchOperator config.searchOperator)
    else if !Text.isIdentifier config.defaultPrimaryKey then
      some (.defaultPrimaryKey config.defaultPrimaryKey)
    else none

/-- Refuses a configuration with an unusable value. -/
def validate (config : Config) : Except ConfigError Config :=
  match config.fault? with
  | some fault => .error (.invalid fault)
  | none => .ok config

/-- The names of the fields in JSON, in declaration order. -/
def fieldNames : List String :=
  ["dialect", "label_fields", "search_operator", "search_belongs_to", "escape_like_wildcards",
    "default_primary_key"]

/-- A dialect in JSON: its name, or an object with its name and `null`. -/
def dialectOfDocument? : Json.Document → Option Dialect
  | .text (some name) => Dialect.ofExactName? name
  | .object [(some name, .null)] => Dialect.ofExactName? name
  | _ => none

/-- The configuration of a JSON document, its values unchecked. -/
def ofDocument? (document : Json.Document) : Option Config := do
  match ← document.fields? fieldNames with
  | [dialect, labelFields, searchOperator, searchBelongsTo, escapeLikeWildcards,
      defaultPrimaryKey] =>
    return {
      dialect := ← Json.optional? default.dialect dialectOfDocument? dialect
      labelFields := ← Json.optional? default.labelFields
        (Json.Document.list? Json.Document.string?) labelFields
      searchOperator := ← Json.optional? default.searchOperator Json.Document.string? searchOperator
      searchBelongsTo := ← Json.optional? default.searchBelongsTo Json.Document.boolean?
        searchBelongsTo
      escapeLikeWildcards := ← Json.optional? default.escapeLikeWildcards Json.Document.boolean?
        escapeLikeWildcards
      defaultPrimaryKey := ← Json.optional? default.defaultPrimaryKey Json.Document.string?
        defaultPrimaryKey }
  | _ => none

/-- The configuration of a JSON text. -/
def ofText (text : String) : Except ConfigError Config :=
  match (Json.Document.ofText? text).bind ofDocument? with
  | some config => config.validate
  | none => .error .notJson

end Config

end AdminQuery
