import AdminQuery.Json.Value
import AdminQuery.Number.Notation

/-!
# Printing JSON

Compact JSON: no blanks, members in order, and no escapes but those that JSON demands.

* `Json.quoted`: a text between quotes
* `Json.Number.render`: a number, doubles in their shortest decimal
* `Json.Value.render`: a value
-/

namespace AdminQuery.Json

/-- A hexadecimal digit, small letters. -/
def hexDigit (n : Nat) : Char :=
  if n < 10 then Char.ofNat ('0'.toNat + n) else Char.ofNat ('a'.toNat + (n - 10))

/-- A control character in the general escaped form. -/
def controlEscape (c : Char) : List Char :=
  ['\\', 'u', '0', '0', hexDigit (c.toNat / 16), hexDigit (c.toNat % 16)]

/-- A character inside a quoted text: quote, backslash and control characters are escaped. -/
def escapeChar (c : Char) : List Char :=
  if c = '"' then ['\\', '"']
  else if c = '\\' then ['\\', '\\']
  else if c = '\x08' then ['\\', 'b']
  else if c = '\t' then ['\\', 't']
  else if c = '\n' then ['\\', 'n']
  else if c = '\x0c' then ['\\', 'f']
  else if c = '\r' then ['\\', 'r']
  else if c.toNat < 32 then controlEscape c
  else [c]

/-- A text between quotes. -/
def quoted (s : String) : String :=
  String.ofList ('"' :: s.toList.flatMap escapeChar ++ ['"'])

/-- A number; a double that is not finite has no JSON form and is printed as `null`. -/
def Number.render : Number → String
  | .integer n => toString n
  | .float x => x.text?.getD "null"

mutual

/-- A value in compact form. -/
def Value.render : Value → String
  | .null => "null"
  | .boolean b => if b then "true" else "false"
  | .number n => n.render
  | .text s => quoted s
  | .array items => "[" ++ ",".intercalate (Value.renderItems items) ++ "]"
  | .object members => "\x7b" ++ ",".intercalate (Value.renderMembers members) ++ "\x7d"

/-- The items of an array, each in compact form. -/
def Value.renderItems : List Value → List String
  | [] => []
  | item :: rest => item.render :: Value.renderItems rest

/-- The members of an object, each in compact form. -/
def Value.renderMembers : List (String × Value) → List String
  | [] => []
  | (key, value) :: rest => (quoted key ++ ":" ++ value.render) :: Value.renderMembers rest

end

end AdminQuery.Json
