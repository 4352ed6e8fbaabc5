import AdminQuery.Json.Value
import AdminQuery.Number.Integer

/-!
# Number literals

A literal without point and exponent is a whole number as long as 64 bits hold it.  Every other
literal is a double, found in two steps: the leading digits that fit in 64 bits are taken as a whole
number, and that number is scaled by a rounded power of ten.

* `Json.NumberLiteral`: sign, digits, fraction and exponent
* `Json.NumberLiteral.ofChars?`: the JSON grammar of numbers
* `Json.NumberLiteral.value?`: the number, unless it lies outside the range of doubles
-/

namespace AdminQuery.Json

open AdminQuery.Number

/-- The parts of a number as written. -/
structure NumberLiteral where
  negative : Bool
  whole : List Char
  fraction : Option (List Char)
  /-- The sign of the exponent, `true` for minus, and its digits. -/
  exponent : Option (Bool × List Char)

/-- The digits in front and the scale of a literal: the value is about `significand * 10 ^ scale`. -/
structure Scaled where
  significand : Nat
  scale : Int
  /-- A digit did not fit any more. -/
  full : Bool

namespace NumberLiteral

/-- Digits as JSON writes whole numbers: no leading zero but the lone one. -/
def isWhole : List Char → Bool
  | [] => false
  | [c] => c.isDigit
  | c :: rest => c.isDigit && c != '0' && rest.all Char.isDigit

/-- The exponent that ends a literal; the outer `none` is for text that is no exponent. -/
def exponentOfChars? : List Char → Option (Option (Bool × List Char))
  | [] => some none
  | c :: rest =>
    let (negative, digits) := splitSign rest
    if (c = 'e' ∨ c = 'E') ∧ isDigits digits then some (some (negative, digits)) else none

/-- The fraction of a literal and what follows it; `none` for a point without digits. -/
def fractionOfChars? : List Char → Option (Option (List Char) × List Char)
  | '.' :: rest =>
    let digits := rest.takeWhile Char.isDigit
    if digits.isEmpty then none else some (some digits, rest.dropWhile Char.isDigit)
  | cs => some (none, cs)

/-- The parts of the number that the characters write. -/
def ofChars? (cs : List Char) : Option NumberLiteral := do
  let (negative, unsigned) := match cs with
    | '-' :: rest => (true, rest)
    | other => (false, other)
  let whole := unsigned.takeWhile Char.isDigit
  if isWhole whole then
    let (fraction, rest) ← fractionOfChars? (unsigned.dropWhile Char.isDigit)
    let exponent ← exponentOfChars? rest
    return { negative, whole, fraction, exponent }
  else
    none

/-- The greatest significand, `2 ^ 64 - 1`. -/
def maxSignificand : Nat := 18446744073709551615

/-- One more whole digit: it joins the significand, or only raises the scale once one did not fit. -/
def takeWholeDigit (scaled : Scaled) (c : Char) : Scaled :=
  let next := scaled.significand * 10 + digitValue c
  if scaled.full || next > maxSignificand then { scaled with scale := scaled.scale + 1, full := true }
  else { scaled with significand := next }

/-- One more fraction digit: it joins the significand, or is dropped once one did not fit. -/
def takeFractionDigit (scaled : Scaled) (c : Char) : Scaled :=
  let next := scaled.significand * 10 + digitValue c
  if scaled.full || next > maxSignificand then { scaled with full := true }
  else { scaled with significand := next, scale := scaled.scale - 1 }

/-- The whole digits of a literal. -/
def scaledWhole (literal : NumberLiteral) : Scaled :=
  literal.whole.foldl takeWholeDigit ⟨0, 0, false⟩

/-- All digits of a literal; the fraction is tried anew where whole digits did not fit. -/
def scaled (literal : NumberLiteral) : Scaled :=
  (literal.fraction.getD []).foldl takeFractionDigit { literal.scaledWhole with full := false }

/-- The greatest power of ten that is scaled by in one step. -/
def maxPower : Nat := 308

/-- A positive double divided by `10 ^ power`, in steps of `10 ^ 308`. -/
def scaleDown (x : Double) (power : Nat) : Double :=
  if power ≤ maxPower then x.div (.powerOfTen power)
  else if x.isZero then x
  else scaleDown (x.div (.powerOfTen maxPower)) (power - maxPower)
termination_by power
decreasing_by simp only [maxPower] at *; omega

/-- A positive double multiplied by `10 ^ power`, if the product is finite. -/
def scaleUp? (x : Double) (power : Nat) : Option Double :=
  if power ≤ maxPower then
    let product := x.mul (.powerOfTen power)
    if product.isFinite then some product else none
  else if x.isZero then some x
  else none

/-- The double `± significand * 10 ^ scale`, if it is finite. -/
def double? (negative : Bool) (significand : Nat) (scale : Int) : Option Double :=
  let x := Double.ofNat significand
  let scaled := if scale < 0 then some (scaleDown x scale.natAbs) else scaleUp? x scale.natAbs
  scaled.map fun y => if negative then y.negate else y

/-- The greatest exponent that is taken at its value, `2 ^ 31 - 1`. -/
def maxExponent : Nat := 2147483647

/-- The double of a literal: exponents too large to count give zero or nothing. -/
def float? (literal : NumberLiteral) : Option Double :=
  let ⟨significand, scale, _⟩ := literal.scaled
  match literal.exponent with
  | none => double? literal.negative significand scale
  | some (down, digits) =>
    let exponent := digitsValue digits
    if exponent > maxExponent then
      if significand ≠ 0 ∧ !down then none
      else some (.finite literal.negative 0 Double.minExponent)
    else
      double? literal.negative significand (if down then scale - exponent else scale + exponent)

/-- The whole number of a literal without point and exponent; minus zero is not one. -/
def integer? (literal : NumberLiteral) : Option Int :=
  let ⟨significand, _, full⟩ := literal.scaledWhole
  if literal.fraction.isSome || literal.exponent.isSome || full then none
  else if !literal.negative then some significand
  else if significand ≠ 0 ∧ minInteger ≤ -(significand : Int) then some (-significand)
  else none

/-- The number of a literal, unless it lies outside the range of doubles. -/
def value? (literal : NumberLiteral) : Option Number :=
  match literal.integer? with
  | some n => some (.integer n)
  | none => literal.float?.map .float

end NumberLiteral

end AdminQuery.Json
