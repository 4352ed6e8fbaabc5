import AdminQuery.Number.Double

/-!
# Shortest decimals

The decimal with the fewest digits that still rounds to a given double.  Of two such decimals the one
nearer to the double is taken, and of two equally near ones the one with an even last digit.

* `Decimal`: a number `digits * 10 ^ exponent`
* `Double.shortest`: the shortest decimal of a positive double
-/

namespace AdminQuery

/-- The number `digits * 10 ^ exponent`. -/
structure Decimal where
  digits : Nat
  exponent : Int
  deriving DecidableEq, Repr

namespace Double

/-- The reals that round to a double, as `(2 * value ± gap) / 2` over a common denominator. -/
structure RoundingInterval where
  /-- Twice the value. -/
  center : Nat
  /-- Twice the distance to the lower end. -/
  below : Nat
  /-- Twice the distance to the upper end. -/
  above : Nat
  /-- Twice the common denominator. -/
  denominator : Nat
  /-- The ends themselves round to the double. -/
  closed : Bool

/-- The reals that round to `significand * 2 ^ exponent`; the gap below a power of two is half as wide. -/
def roundingInterval (significand : Nat) (exponent : Int) : RoundingInterval :=
  let scale := if exponent < 0 then 1 else Nat.pow 2 exponent.natAbs
  let denominator := if exponent < 0 then Nat.pow 2 exponent.natAbs else 1
  let narrow := significand = Nat.pow 2 52 ∧ exponent > minExponent
  { center := 4 * significand * scale
    below := if narrow then scale else 2 * scale
    above := 2 * scale
    denominator := 4 * denominator
    closed := significand % 2 == 0 }

/-- The decimal `digits * 10 ^ exponent` lies in the interval. -/
def RoundingInterval.contains (interval : RoundingInterval) (digits : Nat) (exponent : Int) : Bool :=
  let numerator := if exponent < 0 then digits else digits * Nat.pow 10 exponent.natAbs
  let divisor := if exponent < 0 then Nat.pow 10 exponent.natAbs else 1
  let point := numerator * interval.denominator
  let low := (interval.center - interval.below) * divisor
  let high := (interval.center + interval.above) * divisor
  if interval.closed then low ≤ point && point ≤ high else low < point && point < high

/-- The least `i ≥ start` with `num * 10 ^ i ≥ den`, among `fuel` candidates. -/
def leadingZeros (num den : Nat) : (fuel start : Nat) → Nat
  | 0, start => start
  | fuel + 1, start => if num * Nat.pow 10 start ≥ den then start else leadingZeros num den fuel (start + 1)

/-- The decimal position of a positive quotient: the `k` with `10 ^ (k - 1) ≤ num / den < 10 ^ k`. -/
def decimalPosition (num den : Nat) : Int :=
  if num ≥ den then (Nat.toDigits 10 (num / den)).length
  else 1 - (leadingZeros num den 400 1 : Int)

/-- The better of the two decimals next to `num / den` on the grid of `10 ^ exponent`, if one rounds back. -/
def nearestOnGrid? (interval : RoundingInterval) (num den : Nat) (exponent : Int) : Option Decimal :=
  let num := if exponent < 0 then num * Nat.pow 10 exponent.natAbs else num
  let den := if exponent < 0 then den else den * Nat.pow 10 exponent.natAbs
  let low := num / den
  let remainder := num % den
  let lowFits := interval.contains low exponent
  let highFits := interval.contains (low + 1) exponent
  let lowWins := 2 * remainder < den || (2 * remainder == den && low % 2 == 0)
  if lowFits && (lowWins || !highFits) then some ⟨low, exponent⟩
  else if highFits then some ⟨low + 1, exponent⟩
  else none

/-- The first hit on the grids of `count`, `count + 1`, … digits, among `fuel` grids. -/
def shortestFrom (interval : RoundingInterval) (num den : Nat) (position : Int) :
    (fuel count : Nat) → Decimal
  | 0, _ => ⟨num / den, 0⟩
  | fuel + 1, count =>
    match nearestOnGrid? interval num den (position - count) with
    | some decimal => decimal
    | none => shortestFrom interval num den position fuel (count + 1)

/-- Moves trailing zeros of the digits into the exponent, at most `fuel` of them. -/
def dropTrailingZeros : (fuel : Nat) → Decimal → Decimal
  | 0, decimal => decimal
  | fuel + 1, ⟨digits, exponent⟩ =>
    if digits % 10 = 0 ∧ digits ≠ 0 then dropTrailingZeros fuel ⟨digits / 10, exponent + 1⟩
    else ⟨digits, exponent⟩

/-- The shortest decimal that rounds to `significand * 2 ^ exponent`; seventeen digits always suffice. -/
def shortest (significand : Nat) (exponent : Int) : Decimal :=
  if significand = 0 then ⟨0, 0⟩
  else
    let (num, den) := magnitude (.finite false significand exponent)
    let interval := roundingInterval significand exponent
    dropTrailingZeros 20 (shortestFrom interval num den (decimalPosition num den) 17 1)

end Double

end AdminQuery
