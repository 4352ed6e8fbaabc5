import AdminQuery.Number.Double
import AdminQuery.Number.Integer

/-!
# Reading decimals

* `Number.double?`: the double nearest to a decimal text, which may have a point and an exponent, or
  spell an infinity or not-a-number
-/

namespace AdminQuery.Number

/-- The value of an exponent: an optional sign and digits. -/
def exponent? (cs : List Char) : Option Int :=
  let (negative, digits) := splitSign cs
  if isDigits digits then
    some (if negative then -(digitsValue digits : Int) else digitsValue digits)
  else
    none

/-- The exponent behind a number: none written, or `e` and its value. -/
def exponentPart? : List Char → Option Int
  | [] => some 0
  | c :: rest => if c = 'e' ∨ c = 'E' then exponent? rest else none

/-- The digits after a point and what follows them; no digits where there is no point. -/
def fractionPart : List Char → List Char × List Char
  | '.' :: rest => (rest.takeWhile Char.isDigit, rest.dropWhile Char.isDigit)
  | cs => ([], cs)

/-- The double nearest to unsigned digits with an optional point and exponent. -/
def decimalOfChars? (negative : Bool) (cs : List Char) : Option Double :=
  let whole := cs.takeWhile Char.isDigit
  let (fraction, rest) := fractionPart (cs.dropWhile Char.isDigit)
  if whole.isEmpty && fraction.isEmpty then none
  else
    (exponentPart? rest).map fun exponent =>
      .ofDecimal negative (digitsValue (whole ++ fraction)) (exponent - fraction.length)

/-- The double that a text writes: a decimal, or `inf`, `infinity` or `nan` in any case. -/
def double? (s : String) : Option Double :=
  let (negative, body) := splitSign s.toList
  let word := String.ofList (body.map Char.toLower)
  if word = "inf" ∨ word = "infinity" then some (.infinite negative)
  else if word = "nan" then some .notANumber
  else decimalOfChars? negative body

end AdminQuery.Number
