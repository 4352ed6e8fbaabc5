import AdminQuery.Json.Value

/-!
# JSON documents as written

A document keeps what a value loses: repeated keys, and the two kinds of leaf that are well formed
and still stand for no value.  A reader that skips a member accepts such leaves in it.

* `Json.Document`: a document as written
* `Json.Document.toValue?`: its value, if every leaf has one and the nesting stays within bounds
* `Json.Value.toDocument`: a value as a document
-/

namespace AdminQuery.Json

/-- A document as written. -/
inductive Document where
  | null
  | boolean (b : Bool)
  /-- A number; `none` when it lies outside the range of doubles. -/
  | number (n : Option Number)
  /-- A text; `none` when it holds half of a surrogate pair. -/
  | text (s : Option String)
  | array (items : List Document)
  | object (members : List (Option String × Document))
  deriving Repr

/-- Arrays and objects nest at most this deep in a value. -/
def maxNesting : Nat := 127

namespace Document

mutual

/-- The value of a document in which arrays and objects nest at most `room` deep. -/
def valueWithin? (room : Nat) : Document → Option Value
  | .null => some .null
  | .boolean b => some (.boolean b)
  | .number n => n.map .number
  | .text s => s.map .text
  | .array items => if room = 0 then none else (itemValues? (room - 1) items).map .array
  | .object members =>
    if room = 0 then none
    else (memberValues? (room - 1) members).map fun found => .object (membersOfList found)

/-- The values of the items of an array. -/
def itemValues? (room : Nat) : List Document → Option (List Value)
  | [] => some []
  | item :: rest => do
    let value ← item.valueWithin? room
    let values ← itemValues? room rest
    return value :: values

/-- The values of the members of an object, repeated keys kept. -/
def memberValues? (room : Nat) : List (Option String × Document) → Option (List (String × Value))
  | [] => some []
  | (key, document) :: rest => do
    let key ← key
    let value ← document.valueWithin? room
    let values ← memberValues? room rest
    return (key, value) :: values

end

/-- The value of a document. -/
def toValue? (document : Document) : Option Value :=
  document.valueWithin? maxNesting

end Document

namespace Value

mutual

/-- A value as a document. -/
def toDocument : Value → Document
  | .null => .null
  | .boolean b => .boolean b
  | .number n => .number (some n)
  | .text s => .text (some s)
  | .array items => .array (itemDocuments items)
  | .object members => .object (memberDocuments members)

/-- The items of an array as documents. -/
def itemDocuments : List Value → List Document
  | [] => []
  | item :: rest => item.toDocument :: itemDocuments rest

/-- The members of an object as documents. -/
def memberDocuments : List (String × Value) → List (Option String × Document)
  | [] => []
  | (key, value) :: rest => (some key, value.toDocument) :: memberDocuments rest

end

end Value

end AdminQuery.Json
