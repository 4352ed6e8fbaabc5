/-!
# Command-line arguments

A command is followed by options, each given at most once, as `--name value` or `--name=value`.  A
value that starts with a hyphen must be written in the second form.

* `CommandLine.Invocation`: what the arguments ask for
* `CommandLine.parse`: the invocation of an argument list
-/

namespace AdminQuery.CommandLine

/-- The type that a command works on, and where its catalog and configuration are kept. -/
structure Target where
  catalog : String
  config : Option String
  typeName : String
  deriving DecidableEq, Repr

/-- What the arguments ask for. -/
inductive Invocation where
  | describe (target : Target)
  | filter (target : Target)
  | search (target : Target) (term : String)
  | help
  | version
  deriving DecidableEq, Repr

/-- Arguments that ask for nothing. -/
inductive UsageError where
  | unknownCommand
  | unknownArgument
  | repeatedOption
  | missingValue
  | emptyPath
  | missingOption
  deriving DecidableEq, Repr

/-- A command name. -/
inductive Command where
  | describe
  | filter
  | search
  deriving DecidableEq, Repr

/-- An option of a command. -/
inductive Flag where
  | catalog
  | config
  | type
  | term
  deriving DecidableEq, Repr

/-- The command with this name. -/
def Command.ofName? (name : String) : Option Command :=
  if name = "describe" then some .describe
  else if name = "filter" then some .filter
  else if name = "search" then some .search
  else none

/-- The option of a command with this name. -/
def Flag.ofName? (command : Command) (name : String) : Option Flag :=
  if name = "catalog" then some .catalog
  else if name = "config" then some .config
  else if name = "type" then some .type
  else if name = "term" ∧ command = .search then some .term
  else none

/-- Options that name files. -/
def Flag.isPath : Flag → Bool
  | catalog | config => true
  | type | term => false

/-- The values of the options given so far, last first. -/
abbrev Given := List (Flag × String)

/-- One more option with its value. -/
def addOption (given : Given) (flag : Flag) (value : String) : Except UsageError Given :=
  if (given.lookup flag).isSome then .error .repeatedOption
  else if flag.isPath ∧ value = "" then .error .emptyPath
  else .ok ((flag, value) :: given)

/-- What an argument is. -/
inductive Argument where
  /-- `--`, behind which nothing is an option. -/
  | separator
  /-- `--name`, or `--name=value`. -/
  | long (name : String) (value : Option String)
  /-- `-letters`. -/
  | short (letters : List Char)
  | plain

/-- What an argument is; a lone hyphen is plain. -/
def Argument.ofText (s : String) : Argument :=
  match s.toList with
  | ['-', '-'] => .separator
  | '-' :: '-' :: body =>
    let name := String.ofList (body.takeWhile (· ≠ '='))
    match body.dropWhile (· ≠ '=') with
    | [] => .long name none
    | _ :: value => .long name (some (String.ofList value))
  | '-' :: c :: rest => .short (c :: rest)
  | _ => .plain

/-- An argument that can be the value of the option in front of it. -/
def isValue (s : String) : Bool :=
  match Argument.ofText s with
  | .plain => true
  | _ => false

/-- How the options of a command end: with values, or with a call for help. -/
inductive Options where
  | given (values : Given)
  | help

/-- The options of a command. -/
def parseOptions (command : Command) (given : Given) : List String → Except UsageError Options
  | [] => .ok (.given given)
  | argument :: rest =>
    match Argument.ofText argument with
    | .separator => if rest.isEmpty then .ok (.given given) else .error .unknownArgument
    | .plain => .error .unknownArgument
    | .short letters => if letters.head? = some 'h' then .ok .help else .error .unknownArgument
    | .long name value =>
      if name = "help" then if value.isNone then .ok .help else .error .unknownArgument
      else match Flag.ofName? command name, value, rest with
        | none, _, _ => .error .unknownArgument
        | some flag, some value, rest => do parseOptions command (← addOption given flag value) rest
        | some _, none, [] => .error .missingValue
        | some flag, none, value :: rest =>
          if isValue value then do parseOptions command (← addOption given flag value) rest
          else .error .missingValue

/-- The catalog that is used where none is given. -/
def defaultCatalog : String := "./catalog.json"

/-- The invocation of a command with its options; the type, and the term of a search, must be given. -/
def invocationOf (command : Command) (given : Given) : Except UsageError Invocation :=
  match given.lookup .type with
  | none => .error .missingOption
  | some typeName =>
    let target : Target :=
      ⟨(given.lookup .catalog).getD defaultCatalog, given.lookup .config, typeName⟩
    match command with
    | .describe => .ok (.describe target)
    | .filter => .ok (.filter target)
    | .search =>
      match given.lookup .term with
      | some term => .ok (.search target term)
      | none => .error .missingOption

/-- The help command, with or without the name of a command to explain. -/
def parseHelp : List String → Except UsageError Invocation
  | [] => .ok .help
  | name :: rest =>
    if (name = "help" ∨ (Command.ofName? name).isSome) ∧ rest.isEmpty then .ok .help
    else .error .unknownCommand

/-- The invocation of an argument list. -/
def parse : List String → Except UsageError Invocation
  | [] => .error .unknownCommand
  | argument :: rest =>
    match Argument.ofText argument with
    | .long "help" none => .ok .help
    | .long "version" none => .ok .version
    | .short ('h' :: _) => .ok .help
    | .short ('V' :: _) => .ok .version
    | .plain =>
      if argument = "help" then parseHelp rest
      else match Command.ofName? argument with
        | none => .error .unknownCommand
        | some command => do
          match ← parseOptions command [] rest with
          | .help => .ok .help
          | .given values => invocationOf command values
    | _ => .error .unknownArgument

end AdminQuery.CommandLine
