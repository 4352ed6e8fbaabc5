import AdminQuery.Filter.FilterMap
import AdminQuery.Json.Printer
import AdminQuery.Json.Reader

/-!
# Filter maps in JSON

A filter map is an object of keys; each key holds an object of groups; each group is an entry, written
as an object with `o` and `v`, or as an array of the two.

* `FilterError`: why a text is no filter map
* `FilterEntry.ofValue`: an entry
* `FilterMap.ofValue`: a filter map
* `FilterMap.ofText`: the filter map of a text
-/

namespace AdminQuery

/-- Why a text is no filter map. -/
inductive FilterError where
  | notJson
  | notObject
  | groupsNotObject (field : String) (value : Json.Value)
  /-- Neither object nor array, an operator that is no text, a slot given twice, or a third slot. -/
  | malformedEntry
  | valueNotScalar (value : Json.Value)
  deriving Repr

/-- The wording of an error. -/
def FilterError.message : FilterError → String
  | notJson => "not a JSON text"
  | notObject => "a filter map must be an object"
  | groupsNotObject field value =>
    "filter groups for '" ++ field ++ "' must be an object, got " ++ value.render
  | malformedEntry => "malformed filter entry"
  | valueNotScalar value => "filter value must be a scalar, got " ++ value.render

namespace FilterEntry

/-- An entry that is being read: the slots found so far. -/
structure Slots where
  operator : Option (Option String)
  value : Option String

/-- The text of an operator. -/
def operatorOfValue : Json.Value → Except FilterError (Option String)
  | .null => .ok none
  | .text s => .ok (some s)
  | _ => .error .malformedEntry

/-- The text of a value; numbers and truth values may come unquoted. -/
def textOfValue : Json.Value → Except FilterError String
  | .null => .ok ""
  | .text s => .ok s
  | .number n => .ok n.render
  | .boolean b => .ok (if b then "true" else "false")
  | value => .error (.valueNotScalar value)

/-- The names of the operator slot. -/
def operatorKeys : List String := ["o", "operator"]

/-- The names of the value slot. -/
def valueKeys : List String := ["v", "value"]

/-- One more member of an entry; other members than the two slots are skipped. -/
def takeMember (slots : Slots) (member : String × Json.Value) : Except FilterError Slots :=
  if operatorKeys.contains member.1 then
    if slots.operator.isSome then .error .malformedEntry
    else (operatorOfValue member.2).map fun operator => { slots with operator := some operator }
  else if valueKeys.contains member.1 then
    if slots.value.isSome then .error .malformedEntry
    else (textOfValue member.2).map fun value => { slots with value := some value }
  else .ok slots

/-- The entry of an object, read member by member. -/
def ofMembers (members : List (String × Json.Value)) : Except FilterError FilterEntry := do
  let slots ← members.foldlM takeMember ⟨none, none⟩
  return ⟨slots.operator.join, slots.value.getD ""⟩

/-- The entry of an array: operator, then value, either of which may be missing. -/
def ofItems : List Json.Value → Except FilterError FilterEntry
  | [] => .ok ⟨none, ""⟩
  | [operator] => return ⟨← operatorOfValue operator, ""⟩
  | operator :: value :: rest => do
    let entry : FilterEntry := ⟨← operatorOfValue operator, ← textOfValue value⟩
    if rest.isEmpty then return entry else .error .malformedEntry

/-- The entry of a value. -/
def ofValue : Json.Value → Except FilterError FilterEntry
  | .object members => ofMembers members
  | .array items => ofItems items
  | _ => .error .malformedEntry

end FilterEntry

namespace FilterMap

/-- Adds the groups of one key. -/
def addGroups (field : String) (filters : FilterMap) : List (String × Json.Value) →
    Except FilterError FilterMap
  | [] => .ok filters
  | (group, value) :: rest => do
    let entry ← FilterEntry.ofValue value
    addGroups field (filters.push field group entry) rest

/-- Adds one key with its groups. -/
def addField (filters : FilterMap) (member : String × Json.Value) : Except FilterError FilterMap :=
  match member.2 with
  | .object groups => addGroups member.1 filters groups
  | value => .error (.groupsNotObject member.1 value)

/-- The filter map of the members of an object, in order. -/
def ofMembers (members : List (String × Json.Value)) : Except FilterError FilterMap :=
  members.foldlM addField empty

/-- The filter map of a value. -/
def ofValue : Json.Value → Except FilterError FilterMap
  | .object members => ofMembers members
  | _ => .error .notObject

/-- The filter map of a text.  What follows the map is looked at last. -/
def ofText (text : String) : Except FilterError FilterMap :=
  match Json.Document.first? text with
  | none => .error .notJson
  | some (document, rest) =>
    match document.toValue? with
    | none => .error .notJson
    | some value => do
      let filters ← ofValue value
      if rest.isEmpty then return filters else .error .notJson

end FilterMap

end AdminQuery
