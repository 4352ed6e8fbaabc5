import AdminQuery.CommandLine.Arguments
import AdminQuery.Filter.FilterMapText
import AdminQuery.Report

/-!
# Command sessions

A command loads the catalog, then the configuration, then reads its request, and answers with one line
of JSON.  A type that is unknown or misconfigured is part of the answer; input that cannot be used ends
the session, and so does a date out of range.

* `CommandLine.Outcome`: what a session prints, and its exit code
* `CommandLine.SessionError`: why a session ends without an answer
* `CommandLine.run`: the session of an argument list, over any way to read files and input
-/

namespace AdminQuery.CommandLine

/-- What a session prints, and its exit code. -/
structure Outcome where
  exitCode : UInt32
  output : String
  errors : String
  deriving DecidableEq, Repr

/-- Why a session ends without an answer. -/
inductive SessionError where
  | config (error : ConfigError)
  | catalog (error : CatalogError)
  /-- The input is not UTF-8, or cannot be read. -/
  | unreadableInput
  | emptyInput
  | notJson
  | notFilterMap (error : FilterError)

namespace SessionError

/-- The code of an error. -/
def code : SessionError → String
  | config _ => "ADMIN_CLI_CONFIG_ERROR"
  | catalog _ => "ADMIN_CLI_CATALOG_ERROR"
  | unreadableInput => "ADMIN_CLI_IO_ERROR"
  | emptyInput | notJson | notFilterMap _ => "ADMIN_CLI_INVALID_INPUT"

/-- The wording of an error. -/
def message : SessionError → String
  | config error => error.message
  | catalog error => error.display
  | unreadableInput => "stream did not contain valid UTF-8"
  | emptyInput => "Empty input"
  | notJson => "Invalid JSON: not a JSON text"
  | notFilterMap error => "Invalid filter map: " ++ error.message

end SessionError

/-- The answer with a result. -/
def okResponse (data : Json.Value) : Json.Value :=
  .object [("status", .text "ok"), ("data", data)]

/-- The answer with an error. -/
def errorResponse (error : AssociationError) : Json.Value :=
  .object [("status", .text "error"), ("code", .text error.code), ("message", .text error.message)]

/-- The answer to a question about a type; `none` where the program stops. -/
def response? (result : Except Halt Json.Value) : Option Json.Value :=
  match result with
  | .ok data => some (okResponse data)
  | .error (.refused error) => some (errorResponse error)
  | .error .overflow => none

/-- The text of a file; `none` for a file that cannot be read or is not UTF-8. -/
def textOf? (bytes : Option ByteArray) : Option String :=
  bytes.bind String.fromUTF8?

/-- The catalog in a file. -/
def loadCatalog (path : String) (bytes : Option ByteArray) : Except SessionError Catalog :=
  match textOf? bytes with
  | none => .error (.catalog (.malformed path .unreadable))
  | some text => (Catalog.ofTextFrom path text).mapError .catalog

/-- The configuration in a file. -/
def loadConfig (path : String) (bytes : Option ByteArray) : Except SessionError Config :=
  match textOf? bytes with
  | none => .error (.config (.unreadable path))
  | some text => (Config.ofText text).mapError .config

/-- The filter map in the input of a session. -/
def readRequest (text : String) : Except SessionError FilterMap :=
  if Text.isAllBlank text then .error .emptyInput
  else match Json.Value.ofText? text with
    | none => .error .notJson
    | some value => (FilterMap.ofValue value).mapError .notFilterMap

/-- How a session ends.  What a program that stops writes about it is not told. -/
def outcomeOf (result : Except SessionError (Option Json.Value)) : Outcome :=
  match result with
  | .ok (some value) => ⟨0, value.render ++ "\n", ""⟩
  | .ok none => ⟨101, "", ""⟩
  | .error error => ⟨1, "", error.code ++ ": " ++ error.message ++ "\n"⟩

/-- The name and version of the program. -/
def versionText : String := "adminql 0.1.0\n"

/-- How the program is used. -/
def usageText : String :=
  "adminql - record type introspection and admin query compilation\n\n" ++
  "Usage: adminql <COMMAND>\n\n" ++
  "Commands:\n" ++
  "  describe  Describe the fields and associations of a record type\n" ++
  "  filter    Compile a filter map read from stdin\n" ++
  "  search    Compile a free-text search\n" ++
  "  help      Print this message or the help of the given subcommand(s)\n\n" ++
  "Options:\n" ++
  "  -h, --help     Print help\n" ++
  "  -V, --version  Print version\n"

/-- The wording of a refusal of the arguments. -/
def UsageError.message : UsageError → String
  | unknownCommand => "unrecognized subcommand"
  | unknownArgument => "unexpected argument"
  | repeatedOption => "an option cannot be used multiple times"
  | missingValue => "a value is required for an option"
  | emptyPath => "a path must not be empty"
  | missingOption => "a required option was not provided"

section

variable {m : Type → Type} [Monad m]

/-- What a target is answered from: the catalog is loaded first. -/
def loadEnvironment (readFile : String → m (Option ByteArray)) (target : Target) :
    ExceptT SessionError m Environment := do
  let catalog ← ExceptT.mk do return loadCatalog target.catalog (← readFile target.catalog)
  match target.config with
  | none => return catalog.environment .default
  | some path => do
    let config ← ExceptT.mk do return loadConfig path (← readFile path)
    return catalog.environment config

/-- The filter map on the input. -/
def requestFrom (readInput : m (Option ByteArray)) : ExceptT SessionError m FilterMap :=
  ExceptT.mk do
    match textOf? (← readInput) with
    | none => return .error .unreadableInput
    | some text => return readRequest text

/-- The answer to an invocation that works on a type; `none` for the others. -/
def answer? (readFile : String → m (Option ByteArray)) (readInput : m (Option ByteArray))
    (now : m Instant) : Invocation → Option (ExceptT SessionError m (Option Json.Value))
  | .describe target => some do
    let env ← loadEnvironment readFile target
    return response? ((env.typeReport target.typeName).mapError Halt.refused)
  | .filter target => some do
    let env ← loadEnvironment readFile target
    let filters ← requestFrom readInput
    return response? (env.filterReport target.typeName filters (← now))
  | .search target term => some do
    let env ← loadEnvironment readFile target
    return response? ((env.searchReport target.typeName term).mapError Halt.refused)
  | .help | .version => none

/-- The session of an argument list. -/
def run (readFile : String → m (Option ByteArray)) (readInput : m (Option ByteArray))
    (now : m Instant) (arguments : List String) : m Outcome :=
  match parse arguments with
  | .error error => return ⟨2, "", "error: " ++ error.message ++ "\n\n" ++ usageText⟩
  | .ok invocation =>
    match answer? readFile readInput now invocation with
    | some answer => return outcomeOf (← answer.run)
    | none => return ⟨0, if invocation = .version then versionText else usageText, ""⟩

end

end AdminQuery.CommandLine
