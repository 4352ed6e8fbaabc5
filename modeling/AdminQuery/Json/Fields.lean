import AdminQuery.Json.Document

/-!
# Records in JSON

A record is written as an object with named fields, or as an array of its fields in declaration order
of which the last may be missing.  Members with other names are skipped; a field given twice is
refused.

* `Json.Document.fields?`: the documents of the fields, in declaration order
* `Json.Document.string?`, `boolean?`, `list?`, `nullable?`: readers of one field
* `Json.required?`, `Json.optional?`: readers of a field that must, or need not, be there
-/

namespace AdminQuery.Json

namespace Document

/-- The members of an object under one name. -/
def membersNamed (name : String) (members : List (Option String × Document)) : List Document :=
  (members.filter fun member => member.1 = some name).map Prod.snd

/-- The documents of the fields `names`, `none` for a field that is not given. -/
def fields? (names : List String) : Document → Option (List (Option Document))
  | .array items =>
    if items.length ≤ names.length then
      some (items.map some ++ List.replicate (names.length - items.length) none)
    else
      none
  | .object members =>
    if members.all (fun member => member.1.isSome) &&
        names.all (fun name => (membersNamed name members).length ≤ 1) then
      some (names.map fun name => (membersNamed name members).head?)
    else
      none
  | _ => none

/-- The text of a document that is one. -/
def string? : Document → Option String
  | .text s => s
  | _ => none

/-- The truth value of a document that is one. -/
def boolean? : Document → Option Bool
  | .boolean b => some b
  | _ => none

/-- The whole number of a document that is one. -/
def integer? : Document → Option Int
  | .number (some (.integer n)) => some n
  | _ => none

/-- The items of a document that is an array, each read by `read`. -/
def list? {α : Type} (read : Document → Option α) : Document → Option (List α)
  | .array items => items.mapM read
  | _ => none

/-- A document that is `null` or read by `read`. -/
def nullable? {α : Type} (read : Document → Option α) : Document → Option (Option α)
  | .null => some none
  | document => (read document).map some

end Document

/-- A field that must be given. -/
def required? {α : Type} (read : Document → Option α) (field : Option Document) : Option α :=
  field.bind read

/-- A field that has a default. -/
def optional? {α : Type} (default : α) (read : Document → Option α) (field : Option Document) :
    Option α :=
  match field with
  | none => some default
  | some document => read document

end AdminQuery.Json
