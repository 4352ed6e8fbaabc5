import AdminQuery.Association.Description
import AdminQuery.Filter.EntryPredicate
import AdminQuery.Filter.FilterMap

/-!
# Conditions of filter maps

A key names a column, an association that the record type belongs to, or a column of an associated type
behind a dot; other keys are skipped.  The groups of a key are alternatives, and all keys must hold.

* `Slot`: a column that the groups of a key test
* `Environment.filterTarget`: the columns that a key stands for
* `Environment.filterClauses`: the atoms of each key
* `Environment.filterCondition`: the condition of a filter map
* `Halt`, `Environment.filterRun`: the same, with the entries on which the program stops
-/

namespace AdminQuery

/-- A column that the groups of a key test, with the storage type that decides how. -/
structure Slot where
  column : String
  type : StorageType
  deriving DecidableEq, Repr

/-- The name in front of the first dot, and what follows the dot. -/
def splitDot? (key : String) : Option (String × String) :=
  let cs := key.toList
  if cs.contains '.' then
    some (String.ofList (cs.takeWhile (· ≠ '.')), String.ofList ((cs.dropWhile (· ≠ '.')).drop 1))
  else
    none

namespace Environment

/-- The slot of a column of a record type. -/
def columnSlot? (env : Environment) (record : RecordType) (name : String) : Option Slot :=
  (env.schema.field? record name).map fun field =>
    ⟨record.qualified field.name, field.storageType⟩

/-- The storage type of a key column; one that is not declared holds whole numbers. -/
def keyType (env : Environment) (record : RecordType) (column : String) : StorageType :=
  ((env.schema.field? record column).map Field.storageType).getD .integer

/-- A key with a dot: a column of the one type on the far side of an association. -/
def relatedSlots (env : Environment) (associations : List Association) (name column : String) :
    Except AssociationError (List Slot) :=
  match (associations.find? fun a => a.name = name).bind Association.target? with
  | none => .ok []
  | some reference => do
    let related ← reference.resolve env.registry
    return (env.columnSlot? related column).toList

/-- A key that names an association the record type belongs to: its label column if there is one, and
its key column. -/
def parentSlots (env : Environment) (record : RecordType) (associations : List Association)
    (name : String) : Except AssociationError (List Slot) :=
  match associations.find? fun a => a.name = name && a.kind = .belongsTo with
  | none => .ok []
  | some a => do
    let label ← env.labelColumn? record a
    return (label.map fun column => ⟨column, .string⟩).toList ++
      [⟨record.qualified a.childKey, env.keyType record a.childKey⟩]

/-- The columns that a key stands for.  Associations are described only for keys that are no column. -/
def filterTarget (env : Environment) (record : RecordType) (key : String) :
    Except AssociationError (List Slot) :=
  match env.columnSlot? record key with
  | some slot => .ok [slot]
  | none => do
    let associations ← env.associations record
    match splitDot? key with
    | some (name, column) => env.relatedSlots associations name column
    | none => env.parentSlots record associations key

/-- The atoms of one group of a key. -/
def groupAtoms (env : Environment) (slots : List Slot) (entry : FilterEntry) (now : Instant) :
    List Atom :=
  slots.filterMap fun slot =>
    entry.atom? env.config.patternStyle slot.column slot.type now

/-- The atoms of a key, group after group. -/
def fieldAtoms (env : Environment) (record : RecordType) (filter : FieldGroups) (now : Instant) :
    Except AssociationError (List Atom) := do
  let slots ← env.filterTarget record filter.field
  return filter.groups.flatMap fun group => env.groupAtoms slots group.2 now

/-- The atoms of every key of a filter map. -/
def filterClauses (env : Environment) (record : RecordType) (filters : FilterMap)
    (now : Instant) : Except AssociationError (List (List Atom)) :=
  filters.fields.mapM fun filter => env.fieldAtoms record filter now

end Environment

namespace Condition

/-- At least one of the atoms; no atoms at all are no condition. -/
def ofAlternatives (atoms : List Atom) : Condition :=
  .any (atoms.map Atom.condition)

/-- All clauses, each of which is a list of alternatives in parentheses. -/
def ofClauses (clauses : List (List Atom)) : Condition :=
  .all (clauses.map fun atoms => (ofAlternatives atoms).enclosed)

end Condition

/-- The condition of a filter map. -/
def Environment.filterCondition (env : Environment) (record : RecordType) (filters : FilterMap)
    (now : Instant) : Except AssociationError Condition :=
  (env.filterClauses record filters now).map Condition.ofClauses

/-! ### Runs that stop -/

/-- Why a run has no result. -/
inductive Halt where
  /-- The error is reported. -/
  | refused (error : AssociationError)
  /-- A step from day to day leaves the covered dates, and the program stops. -/
  | overflow
  deriving DecidableEq, Repr

namespace Environment

/-- An entry tests one of the columns against a week that is not covered as a whole. -/
def groupOverflows (slots : List Slot) (entry : FilterEntry) (now : Instant) : Bool :=
  slots.any fun slot => entry.overflows slot.type now

/-- The atoms of a key: its columns are looked up before any of its groups is read. -/
def fieldRun (env : Environment) (record : RecordType) (filter : FieldGroups) (now : Instant) :
    Except Halt (List Atom) := do
  let slots ← (env.filterTarget record filter.field).mapError Halt.refused
  if filter.groups.any fun group => groupOverflows slots group.2 now then
    throw .overflow
  return filter.groups.flatMap fun group => env.groupAtoms slots group.2 now

/-- The condition of a filter map, made key by key until one of them has none. -/
def filterRun (env : Environment) (record : RecordType) (filters : FilterMap) (now : Instant) :
    Except Halt Condition :=
  (filters.fields.mapM fun filter => env.fieldRun record filter now).map Condition.ofClauses

end Environment

end AdminQuery
