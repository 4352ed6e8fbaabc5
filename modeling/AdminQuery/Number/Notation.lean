import AdminQuery.Number.Shortest

/-!
# Decimal notation of doubles

* `DecimalNotation`: where positional notation ends and how an exponent is written
* `Double.text?`: a finite double in its shortest decimal
-/

namespace AdminQuery

/-- The spelling of decimals: scientific exponents in `[positionalFrom, positionalBelow)` are written
with a point and no exponent. -/
structure DecimalNotation where
  positionalFrom : Int
  positionalBelow : Int

namespace DecimalNotation

/-- Doubles are positional from `0.00001` up to, not including, `1e+16`. -/
def standard : DecimalNotation := ⟨-5, 16⟩

/-- `count` zeros. -/
def zeros (count : Nat) : String :=
  String.ofList (List.replicate count '0')

/-- Positional notation with at least one digit on each side of the point. -/
def positional (digits : String) (exponent : Int) : String :=
  let length : Int := digits.length
  if exponent ≥ 0 then digits ++ zeros exponent.toNat ++ ".0"
  else if length + exponent > 0 then
    let whole := (length + exponent).toNat
    String.ofList (digits.toList.take whole) ++ "." ++ String.ofList (digits.toList.drop whole)
  else "0." ++ zeros (-(length + exponent)).toNat ++ digits

/-- Scientific notation: one digit in front of the point, the sign of the exponent always written. -/
def scientific (digits : String) (exponent : Int) : String :=
  let point := exponent + (digits.length : Int) - 1
  let mantissa :=
    match digits.toList with
    | [] => ""
    | [first] => String.ofList [first]
    | first :: rest => String.ofList (first :: '.' :: rest)
  mantissa ++ (if point < 0 then "e-" else "e+") ++ toString point.natAbs

/-- The text of a decimal. -/
def render (style : DecimalNotation) (decimal : Decimal) : String :=
  let digits := toString decimal.digits
  let point := decimal.exponent + (digits.length : Int) - 1
  if style.positionalFrom ≤ point ∧ point < style.positionalBelow then
    positional digits decimal.exponent
  else
    scientific digits decimal.exponent

end DecimalNotation

/-- The text of a finite double; the others have none. -/
def Double.text? : Double → Option String
  | .finite negative significand exponent =>
    let text := DecimalNotation.standard.render (Double.shortest significand exponent)
    some (if negative then "-" ++ text else text)
  | _ => none

end AdminQuery
