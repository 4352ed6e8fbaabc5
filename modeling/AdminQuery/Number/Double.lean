/-!
# Double-precision numbers

Binary floating point with a 53-bit significand, as exact arithmetic on natural numbers.

* `Double`: a finite number `± significand * 2 ^ exponent`, an infinity, or not a number
* `Double.ofRatio`: the double nearest to a quotient, ties to the even significand
* `Double.ofNat`, `Double.mul`, `Double.div`: operations rounded by `Double.ofRatio`
* `Double.ofDecimal`: the double nearest to `digits * 10 ^ exponent`
-/

namespace AdminQuery

/-- A double-precision number. -/
inductive Double where
  /-- The number `± significand * 2 ^ exponent`. -/
  | finite (negative : Bool) (significand : Nat) (exponent : Int)
  | infinite (negative : Bool)
  | notANumber
  deriving DecidableEq, Repr

namespace Double

/-- The exponent of the subnormal numbers. -/
def minExponent : Int := -1074

/-- The exponent of the largest finite numbers. -/
def maxExponent : Int := 971

/-- The quotient and remainder of `num / den` in units of `2 ^ exponent`, with the divisor used. -/
def divideAt (num den : Nat) (exponent : Int) : Nat × Nat × Nat :=
  let num := if exponent < 0 then num * Nat.pow 2 exponent.natAbs else num
  let den := if exponent < 0 then den else den * Nat.pow 2 exponent.natAbs
  (num / den, num % den, den)

/-- The exponent at which the quotient of two positive numbers has 53 bits, or the least one. -/
def exponentFor (num den : Nat) : Int :=
  let estimate : Int := (num.log2 : Int) - den.log2 - 52
  let exact := if (divideAt num den estimate).1 < Nat.pow 2 52 then estimate - 1 else estimate
  max exact minExponent

/-- A significand of at most 53 bits, or `2 ^ 53`, at an exponent. -/
def ofSignificand (negative : Bool) (significand : Nat) (exponent : Int) : Double :=
  let carried := significand = Nat.pow 2 53
  let exponent := if carried then exponent + 1 else exponent
  if exponent > maxExponent then .infinite negative
  else .finite negative (if carried then Nat.pow 2 52 else significand) exponent

/-- The double nearest to `± num / den`, a tie going to the even significand. -/
def ofRatio (negative : Bool) (num den : Nat) : Double :=
  if num = 0 then .finite negative 0 minExponent
  else
    let exponent := exponentFor num den
    let (quotient, remainder, divisor) := divideAt num den exponent
    let up := 2 * remainder > divisor || (2 * remainder == divisor && quotient % 2 == 1)
    ofSignificand negative (if up then quotient + 1 else quotient) exponent

/-- The double nearest to a natural number. -/
def ofNat (n : Nat) : Double :=
  ofRatio false n 1

/-- Neither infinite nor not a number. -/
def isFinite : Double → Bool
  | finite .. => true
  | _ => false

/-- Positive or negative zero. -/
def isZero : Double → Bool
  | finite _ significand _ => significand == 0
  | _ => false

/-- The number with the other sign. -/
def negate : Double → Double
  | finite negative significand exponent => finite (!negative) significand exponent
  | infinite negative => infinite (!negative)
  | notANumber => notANumber

/-- The magnitude of a finite number as a quotient; `0 / 1` for the others. -/
def magnitude : Double → Nat × Nat
  | finite _ significand exponent =>
    if exponent < 0 then (significand, Nat.pow 2 exponent.natAbs)
    else (significand * Nat.pow 2 exponent.natAbs, 1)
  | _ => (0, 1)

/-- The rounded product of two finite numbers of positive sign. -/
def mul (x y : Double) : Double :=
  ofRatio false (x.magnitude.1 * y.magnitude.1) (x.magnitude.2 * y.magnitude.2)

/-- The rounded quotient of two finite numbers of positive sign, the second not zero. -/
def div (x y : Double) : Double :=
  ofRatio false (x.magnitude.1 * y.magnitude.2) (x.magnitude.2 * y.magnitude.1)

/-- The double nearest to a power of ten. -/
def powerOfTen (n : Nat) : Double :=
  ofNat (Nat.pow 10 n)

/-- Above this decimal position every number rounds to infinity. -/
def maxPosition : Int := 310

/-- Below this decimal position every number rounds to zero. -/
def minPosition : Int := -330

/-- The double nearest to `± digits * 10 ^ exponent`. -/
def ofDecimal (negative : Bool) (digits : Nat) (exponent : Int) : Double :=
  let position : Int := (Nat.toDigits 10 digits).length + exponent
  if digits = 0 ∨ position < minPosition then .finite negative 0 minExponent
  else if position > maxPosition then .infinite negative
  else if exponent < 0 then ofRatio negative digits (Nat.pow 10 exponent.natAbs)
  else ofRatio negative (digits * Nat.pow 10 exponent.natAbs) 1

end Double

end AdminQuery
