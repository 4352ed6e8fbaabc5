import AdminQuery.Json.Token

/-!
# Reading JSON

A document is built from tokens one at a time, with the containers that are still open on a stack.

* `Json.Document.first?`: the document at the start of a text, and the tokens behind it
* `Json.Document.ofText?`: the document that is the whole text
* `Json.Value.ofText?`: the value that is the whole text
-/

namespace AdminQuery.Json

/-- A container that is still open, with what it holds so far, last first. -/
inductive Frame where
  | array (items : List Document)
  | object (members : List (Option String × Document)) (key : Option String)

/-- What the next token may be. -/
inductive Reading where
  /-- A value must follow. -/
  | value (outer : List Frame)
  /-- An array was opened: a value, or its end. -/
  | firstItem (outer : List Frame)
  /-- An item ended: a comma, or the end of the array. -/
  | afterItem (items : List Document) (outer : List Frame)
  /-- An object was opened: a key, or its end. -/
  | firstKey (outer : List Frame)
  /-- A comma between members: a key. -/
  | nextKey (members : List (Option String × Document)) (outer : List Frame)
  /-- A key was read: a colon. -/
  | afterKey (members : List (Option String × Document)) (key : Option String) (outer : List Frame)
  /-- A member ended: a comma, or the end of the object. -/
  | afterMember (members : List (Option String × Document)) (outer : List Frame)
  /-- The outermost value ended. -/
  | finished (document : Document)

namespace Reading

/-- Hands a finished document to the container around it. -/
def deliver (document : Document) : List Frame → Reading
  | [] => .finished document
  | .array items :: outer => .afterItem (document :: items) outer
  | .object members key :: outer => .afterMember ((key, document) :: members) outer

/-- A token where a value must follow. -/
def startValue (outer : List Frame) : Token → Option Reading
  | .leaf document => some (deliver document outer)
  | .text s => some (deliver (.text s) outer)
  | .openArray => some (.firstItem outer)
  | .openObject => some (.firstKey outer)
  | _ => none

/-- One token. -/
def step : Reading → Token → Option Reading
  | .value outer, token => startValue outer token
  | .firstItem outer, .closeArray => some (deliver (.array []) outer)
  | .firstItem outer, token => startValue (.array [] :: outer) token
  | .afterItem items outer, .comma => some (.value (.array items :: outer))
  | .afterItem items outer, .closeArray => some (deliver (.array items.reverse) outer)
  | .firstKey outer, .closeObject => some (deliver (.object []) outer)
  | .firstKey outer, .text key => some (.afterKey [] key outer)
  | .nextKey members outer, .text key => some (.afterKey members key outer)
  | .afterKey members key outer, .colon => some (.value (.object members key :: outer))
  | .afterMember members outer, .comma => some (.nextKey members outer)
  | .afterMember members outer, .closeObject => some (deliver (.object members.reverse) outer)
  | _, _ => none

/-- Reads tokens until the outermost value ends. -/
def run : Reading → List Token → Option (Document × List Token)
  | .finished document, rest => some (document, rest)
  | _, [] => none
  | reading, token :: rest =>
    match reading.step token with
    | some next => run next rest
    | none => none

end Reading

namespace Document

/-- The document at the start of a text, and the tokens behind it. -/
def first? (s : String) : Option (Document × List Token) :=
  Reading.run (.value []) (tokens s.toList)

/-- The document that is the whole text, blanks around it aside. -/
def ofText? (s : String) : Option Document :=
  match first? s with
  | some (document, []) => some document
  | _ => none

end Document

/-- The value that is the whole text, blanks around it aside. -/
def Value.ofText? (s : String) : Option Value :=
  (Document.ofText? s).bind Document.toValue?

end AdminQuery.Json
