import AdminQuery.Calendar.Instant
import AdminQuery.Number.Integer

/-!
# Timestamps

The text form of instants: `2024-03-13T15:30:00.250Z`.

* `Instant.render`: universal time with as few fraction digits of 0, 3, 6 and 9 as are exact
* `Instant.ofText?`: a timestamp with any offset from universal time
-/

namespace AdminQuery.Instant

open AdminQuery.Number

/-- A natural number with zeros in front up to a width. -/
def padded (width n : Nat) : String :=
  let digits := toString n
  String.ofList (List.replicate (width - digits.length) '0') ++ digits

/-- A year: four digits, with a sign below 0 and above 9999. -/
def renderYear (year : Int) : String :=
  if year < 0 then "-" ++ padded 4 year.natAbs
  else if year > 9999 then "+" ++ toString year.natAbs
  else padded 4 year.natAbs

/-- A fraction of a second, in thousands as far as they are needed. -/
def renderFraction (nanos : Nat) : String :=
  if nanos = 0 then ""
  else if nanos % 1000000 = 0 then "." ++ padded 3 (nanos / 1000000)
  else if nanos % 1000 = 0 then "." ++ padded 6 (nanos / 1000)
  else "." ++ padded 9 nanos

/-- The timestamp of an instant in universal time. -/
def render (t : Instant) : String :=
  let civil := t.date.civil
  let inDay := (t.seconds % secondsPerDay).toNat
  let second := inDay % 60 + (if t.isLeapSecond then 1 else 0)
  renderYear civil.year ++ "-" ++ padded 2 civil.month ++ "-" ++ padded 2 civil.day ++ "T" ++
    padded 2 (inDay / 3600) ++ ":" ++ padded 2 (inDay / 60 % 60) ++ ":" ++ padded 2 second ++
    renderFraction (t.nanos % nanosPerSecond) ++ "Z"

/-- Exactly `count` digits, and what follows them. -/
def digits? (count : Nat) (cs : List Char) : Option (Nat × List Char) :=
  let digits := cs.take count
  if digits.length = count ∧ isDigits digits then some (digitsValue digits, cs.drop count) else none

/-- One of the characters `allowed`, and what follows it. -/
def oneOf? (allowed : List Char) : List Char → Option (List Char)
  | c :: rest => if allowed.contains c then some rest else none
  | [] => none

/-- The nanoseconds of a fraction, digits past the ninth dropped, and what follows it. -/
def fraction? : List Char → Option (Nat × List Char)
  | '.' :: rest =>
    let digits := rest.takeWhile Char.isDigit
    if digits.isEmpty then none
    else
      let nine := (digits ++ List.replicate 9 '0').take 9
      some (digitsValue nine, rest.dropWhile Char.isDigit)
  | cs => some (0, cs)

/-- The offset from universal time in seconds. -/
def offset? : List Char → Option Int
  | ['Z'] => some 0
  | ['z'] => some 0
  | sign :: rest => do
    let (hours, rest) ← digits? 2 rest
    let rest ← oneOf? [':'] rest
    let (minutes, rest) ← digits? 2 rest
    if hours < 24 ∧ minutes < 60 ∧ rest.isEmpty then
      let seconds : Int := hours * 3600 + minutes * 60
      if sign = '+' then some seconds
      else if sign = '-' ∨ sign = '−' then some (-seconds)
      else none
    else none
  | [] => none

/-- The instant of a date, a time of day, a fraction and an offset; second 60 is a leap second. -/
def assemble? (civil : Civil) (hour minute second nanos : Nat) (offset : Int) : Option Instant := do
  let date ← Date.ofCivil? civil
  if hour < 24 ∧ minute < 60 ∧ second ≤ 60 then
    let counted := min second 59
    let inDay : Int := hour * 3600 + minute * 60 + counted
    some ⟨date.dayNumber * secondsPerDay + inDay - offset,
      if second = 60 then nanos + nanosPerSecond else nanos⟩
  else
    none

/-- The instant that a timestamp writes. -/
def ofText? (s : String) : Option Instant := do
  let (year, rest) ← digits? 4 s.toList
  let rest ← oneOf? ['-'] rest
  let (month, rest) ← digits? 2 rest
  let rest ← oneOf? ['-'] rest
  let (day, rest) ← digits? 2 rest
  let rest ← oneOf? ['T', 't', ' '] rest
  let (hour, rest) ← digits? 2 rest
  let rest ← oneOf? [':'] rest
  let (minute, rest) ← digits? 2 rest
  let rest ← oneOf? [':'] rest
  let (second, rest) ← digits? 2 rest
  let (nanos, rest) ← fraction? rest
  let offset ← offset? rest
  assemble? ⟨year, month, day⟩ hour minute second nanos offset

end AdminQuery.Instant
