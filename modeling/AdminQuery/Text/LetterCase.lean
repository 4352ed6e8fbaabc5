import AdminQuery.Text.LetterCase.Table

/-!
# Lower and upper case

Full Unicode case mapping: one character may become several (`ß` becomes `SS`), and a capital sigma
at the end of a word becomes `ς` instead of `σ`.

* `Text.lowerCaseAfter`: the lower-case form of the characters of a text
* `Text.upperCaseOf`: the upper-case form of one character
* `Text.capitalizeChars`: the characters of a text with the first of them in upper case
* `Text.asciiLowerCase`: lower case of the ASCII letters only
-/

namespace AdminQuery.Text

/-- The image of a character under the first run that holds it; other characters are unchanged. -/
def shiftIn (runs : List ShiftRun) (c : Char) : Char :=
  ((runs.findSome? fun run => run.apply? c.toNat).map Char.ofNat).getD c

/-- The code point of the character lies in one of the ranges. -/
def isWithin (ranges : List (Nat × Nat)) (c : Char) : Bool :=
  ranges.any fun range => range.1 ≤ c.toNat && c.toNat ≤ range.2

/-- The lower-case form of a character, away from the final-sigma rule. -/
def lowerCaseOf (c : Char) : List Char :=
  if c.toNat < 128 then [c.toLower]
  else if c = 'İ' then ['i', '\u0307']
  else [shiftIn lowerRuns c]

/-- The upper-case form of a character. -/
def upperCaseOf (c : Char) : List Char :=
  if c.toNat < 128 then [c.toUpper]
  else match upperExpansions.lookup c.toNat with
    | some codes => codes.map Char.ofNat
    | none => [shiftIn upperRuns c]

/-- A letter with case stands first, once case-ignorable characters are passed over. -/
def startsCased (cs : List Char) : Bool :=
  match cs.dropWhile (isWithin caseIgnorableRanges) with
  | [] => false
  | c :: _ => isWithin casedRanges c

/-- A capital sigma ends a word when a cased letter precedes it and none follows. -/
def sigmaIsFinal (before after : List Char) : Bool :=
  startsCased before && !startsCased after

/-- Lower case of `cs`, where `before` holds the characters in front of `cs`, nearest first. -/
def lowerCaseAfter (before : List Char) : List Char → List Char
  | [] => []
  | c :: rest =>
    let image :=
      if c = 'Σ' then [if sigmaIsFinal before rest then 'ς' else 'σ'] else lowerCaseOf c
    image ++ lowerCaseAfter (c :: before) rest

/-- The characters with the first of them in upper case. -/
def capitalizeChars : List Char → List Char
  | [] => []
  | c :: rest => upperCaseOf c ++ rest

/-- The text with its ASCII letters in lower case and all else unchanged. -/
def asciiLowerCase (s : String) : String :=
  String.ofList (s.toList.map Char.toLower)

end AdminQuery.Text
