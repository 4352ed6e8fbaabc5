import AdminQuery.Collection.Keyed
import AdminQuery.Number.Double

/-!
# JSON values

* `Json.Number`: a whole number, or a double
* `Json.Value`: a JSON value whose objects keep the order of their members and hold each key once
* `Json.membersOfList`: members as read, where a repeated key keeps its first place and its last value
-/

namespace AdminQuery.Json

/-- A number: whole numbers of 64 bits are exact, all others are doubles. -/
inductive Number where
  | integer (n : Int)
  | float (x : Double)
  deriving DecidableEq, Repr

/-- A JSON value. -/
inductive Value where
  | null
  | boolean (b : Bool)
  | number (n : Number)
  | text (s : String)
  | array (items : List Value)
  | object (members : List (String × Value))
  deriving Repr

/-- Members in reading order, where a repeated key keeps its first place and its last value. -/
def membersOfList (members : List (String × Value)) : List (String × Value) :=
  members.foldl (fun held member => Keyed.upsert Prod.fst member held) []

namespace Value

/-- A whole number. -/
def ofInt (n : Int) : Value :=
  .number (.integer n)

/-- A natural number. -/
def ofNat (n : Nat) : Value :=
  ofInt n

/-- A text, or `null` when there is none. -/
def textOrNull (s : Option String) : Value :=
  (s.map text).getD null

/-- An array of texts. -/
def ofTexts (texts : List String) : Value :=
  .array (texts.map text)

/-- A member that is left out when there is no text. -/
def textMember? (key : String) (s : Option String) : List (String × Value) :=
  (s.map fun t => (key, text t)).toList

/-- The value with one more member; values other than objects are unchanged. -/
def withMember (value : Value) (key : String) (member : Value) : Value :=
  match value with
  | .object members => .object (Keyed.upsert Prod.fst (key, member) members)
  | other => other

end Value

end AdminQuery.Json
