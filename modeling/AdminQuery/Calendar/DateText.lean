import AdminQuery.Calendar.Date
import AdminQuery.Number.Integer
import AdminQuery.Text.Blank

/-!
# Dates in text

* `Date.ofIso?`: `2024-03-13`, blanks allowed in front of each number
* `Date.ofMonthDayYear?`: `03132024`
-/

namespace AdminQuery.Date

open AdminQuery.Number AdminQuery.Text

/-- At most `width` digits behind blanks, and what follows them. -/
def shortNumber? (width : Nat) (cs : List Char) : Option (Nat × List Char) :=
  let body := trimStartChars cs
  let digits := (body.take width).takeWhile Char.isDigit
  if digits.isEmpty then none else some (digitsValue digits, body.drop digits.length)

/-- A year behind blanks: up to four digits, or a sign and any number of digits. -/
def year? (cs : List Char) : Option (Int × List Char) :=
  match trimStartChars cs with
  | '-' :: rest => signedYear? true rest
  | '+' :: rest => signedYear? false rest
  | body => (shortNumber? 4 body).map fun (n, rest) => ((n : Int), rest)
where
  signedYear? (negative : Bool) (rest : List Char) : Option (Int × List Char) :=
    let digits := rest.takeWhile Char.isDigit
    if digits.isEmpty then none
    else
      let value : Int := digitsValue digits
      some (if negative then -value else value, rest.dropWhile Char.isDigit)

/-- A hyphen, and what follows it. -/
def afterHyphen? : List Char → Option (List Char)
  | '-' :: rest => some rest
  | _ => none

/-- The date of year, month and day between hyphens, with nothing behind the day. -/
def isoChars? (cs : List Char) : Option Date := do
  let (year, rest) ← year? cs
  let rest ← afterHyphen? rest
  let (month, rest) ← shortNumber? 2 rest
  let rest ← afterHyphen? rest
  let (day, rest) ← shortNumber? 2 rest
  if rest.isEmpty then ofCivil? ⟨year, month, day⟩ else none

/-- The date that a text writes as `year-month-day`, blanks around it aside. -/
def ofIso? (s : String) : Option Date :=
  isoChars? (trimChars s.toList)

/-- The date of eight digits: month, day and year. -/
def monthDayYearChars? (cs : List Char) : Option Date :=
  if cs.length = 8 ∧ cs.all Char.isDigit then
    ofCivil?
      ⟨digitsValue (cs.drop 4), digitsValue (cs.take 2), digitsValue ((cs.drop 2).take 2)⟩
  else
    none

/-- The date that a text writes as month, day and year in eight digits, blanks around it aside. -/
def ofMonthDayYear? (s : String) : Option Date :=
  monthDayYearChars? (trimChars s.toList)

end AdminQuery.Date
