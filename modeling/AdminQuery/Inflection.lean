import AdminQuery.Text.Blank
import AdminQuery.Text.DecimalDigit
import AdminQuery.Text.LetterCase

/-!
# Inflection of names

The conventions that lead from a type name to its table, its foreign key, its label and back.

* `Inflection.snakeCase`: `ARBlog` to `ar_blog`
* `Inflection.camelCase`: `ar_blog` to `ArBlog`
* `Inflection.singular`, `Inflection.plural`: regular English nouns
* `Inflection.title`: `team_id` to `Team`
* `Inflection.tableName`, `Inflection.referenceKey`: the table and the key column of a type

Each text function is `String.ofList` of a function on characters, which the lemmas speak of.
-/

namespace AdminQuery.Inflection

open AdminQuery.Text

/-! ### Underscored names -/

/-- Puts `_` behind every character at which `boundary` holds of it and the characters that follow. -/
def insertUnderscores (boundary : Char → List Char → Bool) : List Char → List Char
  | [] => []
  | c :: rest =>
    if boundary c rest then c :: '_' :: insertUnderscores boundary rest
    else c :: insertUnderscores boundary rest

/-- An acronym ends where a capital or digit is followed by a capital that starts a word. -/
def endsAcronym (c : Char) : List Char → Bool
  | u :: l :: _ => (c.isUpper || isDecimalDigit c) && u.isUpper && l.isLower
  | _ => false

/-- A word ends where a small letter or digit is followed by a capital. -/
def endsWord (c : Char) : List Char → Bool
  | u :: _ => (c.isLower || isDecimalDigit c) && u.isUpper
  | [] => false

/-- A hyphen becomes an underscore. -/
def hyphenToUnderscore (c : Char) : Char :=
  if c = '-' then '_' else c

/-- The underscored form of a name, acronyms split before words. -/
def snakeCaseChars (cs : List Char) : List Char :=
  lowerCaseAfter []
    ((insertUnderscores endsWord (insertUnderscores endsAcronym cs)).map hyphenToUnderscore)

/-- The lower-case, underscored form of a name. -/
def snakeCase (name : String) : String :=
  String.ofList (snakeCaseChars name.toList)

/-! ### Camel case -/

/-- Drops underscores and starts every segment with a capital; `fresh` says that a segment starts. -/
def camelCaseFrom (fresh : Bool) : List Char → List Char
  | [] => []
  | c :: rest =>
    if c = '_' then camelCaseFrom true rest
    else (if fresh then upperCaseOf c else [c]) ++ camelCaseFrom false rest

/-- The segments of an underscored name, each capitalized, run together. -/
def camelCase (name : String) : String :=
  String.ofList (camelCaseFrom true name.toList)

/-! ### Number of nouns -/

/-- What stands in front of a final `suffix`, if the characters end so. -/
def stem? (suffix cs : List Char) : Option (List Char) :=
  if suffix.isSuffixOf cs then some (cs.take (cs.length - suffix.length)) else none

/-- Endings whose plural adds `es`. -/
def sibilantPlurals : List (List Char) :=
  [['s', 's', 'e', 's'], ['u', 's', 'e', 's'], ['x', 'e', 's'], ['c', 'h', 'e', 's'],
   ['s', 'h', 'e', 's'], ['z', 'z', 'e', 's']]

/-- Drops a final `s` that is not the whole word and does not follow another `s`. -/
def dropFinalS (cs : List Char) : List Char :=
  if ['s', 's'].isSuffixOf cs then cs
  else match stem? ['s'] cs with
    | some (c :: rest) => c :: rest
    | _ => cs

/-- The singular of a plural that does not end in `ies`. -/
def singularRegular (cs : List Char) : List Char :=
  if sibilantPlurals.any (·.isSuffixOf cs) then cs.take (cs.length - 2) else dropFinalS cs

/-- The singular of a regular plural, on characters. -/
def singularChars (cs : List Char) : List Char :=
  match stem? ['i', 'e', 's'] cs with
  | some (c :: rest) => c :: rest ++ ['y']
  | _ => singularRegular cs

/-- The singular of a regular English plural; other words are unchanged. -/
def singular (word : String) : String :=
  String.ofList (singularChars word.toList)

/-- A vowel letter in front of a final `y`. -/
def isVowel (c : Char) : Bool :=
  c == 'a' || c == 'e' || c == 'i' || c == 'o' || c == 'u'

/-- Endings after which a plural is written `es`. -/
def sibilants : List (List Char) :=
  [['s'], ['x'], ['z'], ['c', 'h'], ['s', 'h']]

/-- The plural of a noun that keeps its last letter. -/
def pluralRegular (cs : List Char) : List Char :=
  if sibilants.any (·.isSuffixOf cs) then cs ++ ['e', 's'] else cs ++ ['s']

/-- The regular plural, on characters. -/
def pluralChars (cs : List Char) : List Char :=
  match stem? ['y'] cs with
  | some stem =>
    match stem.getLast? with
    | some c => if isVowel c then pluralRegular cs else stem ++ ['i', 'e', 's']
    | none => pluralRegular cs
  | none => pluralRegular cs

/-- The regular English plural of a noun. -/
def plural (word : String) : String :=
  String.ofList (pluralChars word.toList)

/-! ### Labels, tables and keys -/

/-- An underscore becomes a space. -/
def underscoreToSpace (c : Char) : Char :=
  if c = '_' then ' ' else c

/-- The label of a column or association: no final `_id`, spaces, a leading capital. -/
def titleChars (cs : List Char) : List Char :=
  let base := (stem? ['_', 'i', 'd'] cs).getD cs
  capitalizeChars (lowerCaseAfter [] (trimChars (base.map underscoreToSpace)))

/-- The label of a column or association name. -/
def title (name : String) : String :=
  String.ofList (titleChars name.toList)

/-- The conventional table of a type: `ARPost` is kept in `ar_posts`. -/
def tableName (typeName : String) : String :=
  plural (snakeCase typeName)

/-- The conventional key column that refers to a type: `ARBlog` is referred to by `ar_blog_id`. -/
def referenceKey (typeName : String) : String :=
  snakeCase typeName ++ "_id"

end AdminQuery.Inflection
