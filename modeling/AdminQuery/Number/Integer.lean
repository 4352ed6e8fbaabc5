/-!
# Whole numbers in decimal

* `Number.digitsValue`: the value of a row of ASCII digits
* `Number.splitSign`: an optional sign in front of a number
* `Number.integer?`: the signed 64-bit integer that a text writes
-/

namespace AdminQuery.Number

/-- The value of one ASCII digit. -/
def digitValue (c : Char) : Nat :=
  c.toNat - '0'.toNat

/-- The value of a row of ASCII digits, most significant first. -/
def digitsValue (digits : List Char) : Nat :=
  Nat.ofDigitChars 10 digits 0

/-- At least one ASCII digit, and nothing else. -/
def isDigits (cs : List Char) : Bool :=
  !cs.isEmpty && cs.all Char.isDigit

/-- An optional sign, `true` for minus, and what follows it. -/
def splitSign : List Char → Bool × List Char
  | '-' :: rest => (true, rest)
  | '+' :: rest => (false, rest)
  | cs => (false, cs)

/-- The least signed 64-bit integer, `-2 ^ 63`. -/
def minInteger : Int := -9223372036854775808

/-- The greatest signed 64-bit integer, `2 ^ 63 - 1`. -/
def maxInteger : Int := 9223372036854775807

/-- The integer that an optional sign and digits write, when it is a signed 64-bit integer. -/
def integerOfChars? (cs : List Char) : Option Int :=
  let (negative, digits) := splitSign cs
  if isDigits digits then
    let value : Int := if negative then -(digitsValue digits : Int) else digitsValue digits
    if minInteger ≤ value ∧ value ≤ maxInteger then some value else none
  else
    none

/-- The signed 64-bit integer that a text writes in decimal, with nothing around it. -/
def integer? (s : String) : Option Int :=
  integerOfChars? s.toList

end AdminQuery.Number
