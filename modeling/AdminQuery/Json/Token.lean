import AdminQuery.Json.Document
import AdminQuery.Json.NumberLiteral

/-!
# JSON tokens

* `Json.Token`: a bracket, a separator, a text or another leaf
* `Json.tokens`: the tokens of a text, up to the first character that starts none

A text token is decoded in two steps: `splitText` finds its closing quote, and `textOfBody?` resolves
the escapes between the quotes.
-/

namespace AdminQuery.Json

/-- A token; `invalid` stands for all that follows a fault. -/
inductive Token where
  | openArray
  | closeArray
  | openObject
  | closeObject
  | colon
  | comma
  | leaf (document : Document)
  | text (s : Option String)
  | invalid
  deriving Repr

/-! ### Texts -/

/-- The body of a quoted text and what follows its closing quote. -/
def splitText : List Char → Option (List Char × List Char)
  | [] => none
  | '"' :: rest => some ([], rest)
  | '\\' :: c :: rest => (splitText rest).map fun (body, after) => ('\\' :: c :: body, after)
  | c :: rest => (splitText rest).map fun (body, after) => (c :: body, after)

theorem length_of_splitText {cs body rest : List Char} (h : splitText cs = some (body, rest)) :
    rest.length < cs.length := by
  fun_induction splitText cs generalizing body rest with
  | case1 => simp at h
  | case2 => simp_all
  | case3 c after ih =>
    obtain ⟨⟨b, r⟩, hr, he⟩ := Option.map_eq_some_iff.1 h
    have := ih hr
    simp_all
    omega
  | case4 c after _ _ ih =>
    obtain ⟨⟨b, r⟩, hr, he⟩ := Option.map_eq_some_iff.1 h
    have := ih hr
    simp_all
    omega

/-- The value of a hexadecimal digit. -/
def hexValue? (c : Char) : Option Nat :=
  if c.isDigit then some (c.toNat - '0'.toNat)
  else if 'a' ≤ c ∧ c ≤ 'f' then some (c.toNat - 'a'.toNat + 10)
  else if 'A' ≤ c ∧ c ≤ 'F' then some (c.toNat - 'A'.toNat + 10)
  else none

/-- The value of four hexadecimal digits. -/
def hexValues? (a b c d : Char) : Option Nat := do
  return (((← hexValue? a) * 16 + (← hexValue? b)) * 16 + (← hexValue? c)) * 16 + (← hexValue? d)

/-- The character of an escape with one letter. -/
def shortEscape? (c : Char) : Option Char :=
  [('"', '"'), ('\\', '\\'), ('/', '/'), ('b', '\x08'), ('f', '\x0c'), ('n', '\n'), ('r', '\r'),
   ('t', '\t')].lookup c

/-- The code units of a text body: code points, and surrogates where escapes write them. -/
def codeUnits? : List Char → Option (List Nat)
  | [] => some []
  | '\\' :: 'u' :: a :: b :: c :: d :: rest => do
    let unit ← hexValues? a b c d
    let units ← codeUnits? rest
    return unit :: units
  | '\\' :: c :: rest => do
    let char ← shortEscape? c
    let units ← codeUnits? rest
    return char.toNat :: units
  | c :: rest =>
    if c = '\\' ∨ c.toNat < 32 then none else (codeUnits? rest).map (c.toNat :: ·)

/-- The first half of a surrogate pair. -/
def isLeading (unit : Nat) : Bool :=
  0xD800 ≤ unit && unit < 0xDC00

/-- The second half of a surrogate pair. -/
def isTrailing (unit : Nat) : Bool :=
  0xDC00 ≤ unit && unit < 0xE000

/-- The characters of code units, if every surrogate has its other half. -/
def charsOfUnits? : List Nat → Option (List Char)
  | [] => some []
  | unit :: rest =>
    if isLeading unit then
      match rest with
      | next :: after =>
        if isTrailing next then
          (charsOfUnits? after).map
            (Char.ofNat (0x10000 + (unit - 0xD800) * 0x400 + (next - 0xDC00)) :: ·)
        else none
      | [] => none
    else if isTrailing unit then none
    else (charsOfUnits? rest).map (Char.ofNat unit :: ·)

/-- The token of a text body, `invalid` for an unknown escape or a raw control character. -/
def textToken (body : List Char) : Token :=
  match codeUnits? body with
  | some units => .text ((charsOfUnits? units).map String.ofList)
  | none => .invalid

/-! ### All tokens -/

/-- A blank between tokens. -/
def isGap (c : Char) : Bool :=
  c == ' ' || c == '\t' || c == '\n' || c == '\r'

/-- A character of a number literal. -/
def isNumeric (c : Char) : Bool :=
  c.isDigit || c == '-' || c == '+' || c == '.' || c == 'e' || c == 'E'

/-- The token of a number literal. -/
def numberToken (cs : List Char) : Token :=
  match NumberLiteral.ofChars? cs with
  | some literal => .leaf (.number literal.value?)
  | none => .invalid

/-- The token of a word of letters. -/
def wordToken (word : List Char) : Token :=
  if word = ['n', 'u', 'l', 'l'] then .leaf .null
  else if word = ['t', 'r', 'u', 'e'] then .leaf (.boolean true)
  else if word = ['f', 'a', 'l', 's', 'e'] then .leaf (.boolean false)
  else .invalid

/-- The token of a single punctuation character. -/
def punctuation? (c : Char) : Option Token :=
  if c = '[' then some .openArray
  else if c = ']' then some .closeArray
  else if c = '{' then some .openObject
  else if c = '}' then some .closeObject
  else if c = ':' then some .colon
  else if c = ',' then some .comma
  else none

theorem length_dropWhile_le (p : Char → Bool) (cs : List Char) :
    (cs.dropWhile p).length ≤ cs.length :=
  (List.dropWhile_sublist p).length_le

/-- The tokens of a text; `invalid` ends them at the first fault. -/
def tokens : List Char → List Token
  | [] => []
  | c :: rest =>
    if isGap c then tokens rest
    else if c = '"' then
      match h : splitText rest with
      | some (body, after) =>
        have : after.length < rest.length := length_of_splitText h
        textToken body :: tokens after
      | none => [.invalid]
    else if c.isDigit || c == '-' then
      have := length_dropWhile_le isNumeric rest
      numberToken (c :: rest.takeWhile isNumeric) :: tokens (rest.dropWhile isNumeric)
    else if c.isAlpha then
      have := length_dropWhile_le Char.isAlpha rest
      wordToken (c :: rest.takeWhile Char.isAlpha) :: tokens (rest.dropWhile Char.isAlpha)
    else match punctuation? c with
      | some token => token :: tokens rest
      | none => [.invalid]
termination_by cs => cs.length
decreasing_by all_goals simp only [List.length_cons]; omega

end AdminQuery.Json
