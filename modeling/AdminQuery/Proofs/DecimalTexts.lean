import AdminQuery.Calendar.Timestamp
import AdminQuery.Text.Blank
import Mathlib.Algebra.Group.Nat.Defs

/-!
# Rows of decimal digits

* `Number.AllDigits`: nothing but ASCII digits
* `Number.digitsValue_lt`, `Number.eq_of_digitsValue_eq`: as many digits as numbers, where the width is fixed
* `Number.toList_toString_ofNat`, `Number.toList_toString_negSucc`: the decimal text of an integer
* `Number.WritesInteger`, `Number.integerOfChars?_eq_some_iff`: **the texts that are read as integers**
* `Instant.padded_spec`, `Instant.eq_padded`: **the digits of a fixed width are the padded number that they
  write**
* `Text.isBlank_of_isDigit`, `Text.trimStartChars_cons`: nothing is trimmed in front of a digit
-/

namespace AdminQuery

namespace Number

variable {cs ds : List Char}

/-- Nothing but ASCII digits. -/
def AllDigits (cs : List Char) : Prop :=
  ∀ c ∈ cs, c.isDigit = true

instance (cs : List Char) : Decidable (AllDigits cs) :=
  decidable_of_iff (cs.all Char.isDigit = true) List.all_eq_true

theorem isDigits_iff : isDigits cs = true ↔ cs ≠ [] ∧ AllDigits cs := by
  simp [isDigits, AllDigits]

theorem digitsValue_cons (c : Char) (cs : List Char) :
    digitsValue (c :: cs) = 10 ^ cs.length * digitValue c + digitsValue cs := by
  rw [digitsValue, Nat.ofDigitChars_cons, Nat.ofDigitChars_eq_ofDigitChars_zero, Nat.mul_zero,
    Nat.zero_add]
  rfl

/-- A digit is a number below ten, and known by it. -/
theorem digitValue_lt {c : Char} (h : c.isDigit = true) :
    digitValue c < 10 ∧ c.toNat = digitValue c + 48 := by
  have hbounds : '0'.toNat ≤ c.toNat ∧ c.toNat ≤ '9'.toNat := by
    simpa [Char.isDigit, UInt32.le_iff_toNat_le] using h
  have hzero : '0'.toNat = 48 := rfl
  have hnine : '9'.toNat = 57 := rfl
  rw [digitValue]
  omega

theorem digitsValue_lt (h : AllDigits cs) : digitsValue cs < 10 ^ cs.length := by
  induction cs with
  | nil => decide
  | cons c cs ih =>
    obtain ⟨hc, hcs⟩ := List.forall_mem_cons.1 h
    have hdigit := (digitValue_lt hc).1
    have hrest := ih hcs
    have htop : 10 ^ cs.length * digitValue c ≤ 10 ^ cs.length * 9 :=
      Nat.mul_le_mul_left _ (by omega)
    rw [digitsValue_cons, List.length_cons, Nat.pow_succ]
    omega

/-- **Rows of digits of one length are the same when they write the same number.** -/
theorem eq_of_digitsValue_eq (hcs : AllDigits cs) (hds : AllDigits ds)
    (hlength : cs.length = ds.length) (h : digitsValue cs = digitsValue ds) : cs = ds := by
  induction cs generalizing ds with
  | nil => exact (List.length_eq_zero_iff.1 hlength.symm).symm
  | cons c cs ih =>
    cases ds with
    | nil => cases hlength
    | cons d ds =>
      obtain ⟨hc, hcs⟩ := List.forall_mem_cons.1 hcs
      obtain ⟨hd, hds⟩ := List.forall_mem_cons.1 hds
      have hlength : cs.length = ds.length := Nat.succ.inj hlength
      rw [digitsValue_cons, digitsValue_cons, hlength] at h
      have hlow := digitsValue_lt hcs
      have hlow' := digitsValue_lt hds
      rw [hlength] at hlow
      -- The first digit is the quotient by the power of ten, and the other digits the remainder.
      have hpos : 0 < 10 ^ ds.length := Nat.pow_pos (by decide)
      have hfirst : digitValue c = digitValue d := by
        have hquotient := congrArg (· / 10 ^ ds.length) h
        simpa [Nat.mul_add_div hpos, Nat.div_eq_of_lt hlow, Nat.div_eq_of_lt hlow'] using hquotient
      have hrest : digitsValue cs = digitsValue ds := by
        rw [hfirst] at h
        exact Nat.add_left_cancel h
      have hsame : c = d := by
        apply Char.toNat_inj.1
        rw [(digitValue_lt hc).2, (digitValue_lt hd).2, hfirst]
      rw [hsame, ih hcs hds hlength hrest]

/-- Digits only add to the number in front of them. -/
theorem le_ofDigitChars (digits : List Char) (front : Nat) :
    front ≤ Nat.ofDigitChars 10 digits front := by
  rw [Nat.ofDigitChars_eq_ofDigitChars_zero]
  have hpos : 0 < 10 ^ digits.length := Nat.pow_pos (by decide)
  have hle : front ≤ 10 ^ digits.length * front := Nat.le_mul_of_pos_left front hpos
  omega

theorem toList_toString_ofNat (n : Nat) : (toString (Int.ofNat n)).toList = Nat.toDigits 10 n := by
  show n.repr.toList = _
  exact Nat.toList_repr

theorem toList_toString_negSucc (n : Nat) :
    (toString (Int.negSucc n)).toList = '-' :: Nat.toDigits 10 (n + 1) := by
  simp [Int.repr]

/-! ### Signed integers -/

/-- An optional sign and at least one digit write an integer. -/
def WritesInteger (cs : List Char) (n : Int) : Prop :=
  ∃ digits, digits ≠ [] ∧ AllDigits digits ∧
    ((cs = digits ∨ cs = '+' :: digits) ∧ n = digitsValue digits ∨
      cs = '-' :: digits ∧ n = -(digitsValue digits : Int))

/-- The sign of a text, and that what follows is not taken for one. -/
theorem splitSign_cases (cs : List Char) :
    (∃ rest, cs = '-' :: rest ∧ splitSign cs = (true, rest)) ∨
      (∃ rest, cs = '+' :: rest ∧ splitSign cs = (false, rest)) ∨ splitSign cs = (false, cs) := by
  rw [splitSign.eq_def]
  split
  · exact .inl ⟨_, rfl, rfl⟩
  · exact .inr (.inl ⟨_, rfl, rfl⟩)
  · exact .inr (.inr rfl)

theorem splitSign_of_allDigits (h : AllDigits cs) : splitSign cs = (false, cs) := by
  rcases splitSign_cases cs with ⟨rest, rfl, -⟩ | ⟨rest, rfl, -⟩ | hplain
  · exact absurd (h '-' List.mem_cons_self) (by decide)
  · exact absurd (h '+' List.mem_cons_self) (by decide)
  · exact hplain

/-- The sign and the digits of a text that writes an integer. -/
theorem writesInteger_iff {n : Int} : WritesInteger cs n ↔
    isDigits (splitSign cs).2 = true ∧
      n = if (splitSign cs).1 then -(digitsValue (splitSign cs).2 : Int)
        else digitsValue (splitSign cs).2 := by
  constructor
  · rintro ⟨digits, hne, hdigits, ⟨rfl | rfl, rfl⟩ | ⟨rfl, rfl⟩⟩
    · rw [splitSign_of_allDigits hdigits]
      exact ⟨isDigits_iff.2 ⟨hne, hdigits⟩, rfl⟩
    · exact ⟨isDigits_iff.2 ⟨hne, hdigits⟩, rfl⟩
    · exact ⟨isDigits_iff.2 ⟨hne, hdigits⟩, rfl⟩
  · rintro ⟨hdigits, hvalue⟩
    rcases splitSign_cases cs with ⟨rest, rfl, hsplit⟩ | ⟨rest, rfl, hsplit⟩ | hsplit <;>
      rw [hsplit] at hdigits hvalue <;> obtain ⟨hne, hdigits⟩ := isDigits_iff.1 hdigits
    · exact ⟨rest, hne, hdigits, .inr ⟨rfl, hvalue⟩⟩
    · exact ⟨rest, hne, hdigits, .inl ⟨.inr rfl, hvalue⟩⟩
    · exact ⟨cs, hne, hdigits, .inl ⟨.inl rfl, hvalue⟩⟩

/-- **A text is read as the integer that it writes, when 64 bits hold it.** -/
theorem integerOfChars?_eq_some_iff {n : Int} :
    integerOfChars? cs = some n ↔ WritesInteger cs n ∧ minInteger ≤ n ∧ n ≤ maxInteger := by
  rw [integerOfChars?, writesInteger_iff]
  generalize splitSign cs = sign
  obtain ⟨negative, digits⟩ := sign
  show (if isDigits digits = true then
    if minInteger ≤ (if negative = true then -(digitsValue digits : Int) else digitsValue digits) ∧
        (if negative = true then -(digitsValue digits : Int) else digitsValue digits) ≤ maxInteger then
      some (if negative = true then -(digitsValue digits : Int) else digitsValue digits)
    else none
  else none) = some n ↔ _
  generalize (if negative = true then -(digitsValue digits : Int) else digitsValue digits) = value
  by_cases hdigits : isDigits digits = true
  · rw [if_pos hdigits]
    split
    · rename_i hrange
      constructor
      · intro h
        cases h
        exact ⟨⟨hdigits, rfl⟩, hrange⟩
      · rintro ⟨⟨-, rfl⟩, -⟩
        rfl
    · rename_i hrange
      constructor
      · intro h
        cases h
      · rintro ⟨⟨-, rfl⟩, hin⟩
        exact absurd hin hrange
  · rw [if_neg hdigits]
    simp [hdigits]

end Number

namespace Instant

open Number

/-- **A padded number that fits its width has just that many digits, which write it.** -/
theorem padded_spec (width : Nat) {n : Nat} (hwidth : 0 < width) (h : n < 10 ^ width) :
    (padded width n).toList.length = width ∧ AllDigits (padded width n).toList ∧
      digitsValue (padded width n).toList = n := by
  have htext : (toString n).toList = Nat.toDigits 10 n := Nat.toList_repr
  have hlength : (toString n).length = (Nat.toDigits 10 n).length := by
    rw [← htext, String.length_toList]
  have hle : (Nat.toDigits 10 n).length ≤ width := (Nat.length_toDigits_le_iff (by decide) hwidth).2 h
  have hlist : (padded width n).toList =
      List.replicate (width - (Nat.toDigits 10 n).length) '0' ++ Nat.toDigits 10 n := by
    simp only [padded, String.toList_append, String.toList_ofList, hlength, htext]
  rw [hlist]
  refine ⟨?_, ?_, ?_⟩
  · rw [List.length_append, List.length_replicate]
    omega
  · intro c hc
    rcases List.mem_append.1 hc with hc | hc
    · rw [List.eq_of_mem_replicate hc]
      decide
    · exact Nat.isDigit_of_mem_toDigits (by decide) (by decide) hc
  · rw [digitsValue, Nat.ofDigitChars_append, Nat.ofDigitChars_replicate_zero, Nat.mul_zero,
      Nat.ofDigitChars_ten_toDigits]

/-- **Digits are the padded number that they write.** -/
theorem eq_padded {cs : List Char} (hne : cs ≠ []) (h : AllDigits cs) :
    cs = (padded cs.length (digitsValue cs)).toList := by
  obtain ⟨hlength, hdigits, hvalue⟩ :=
    padded_spec cs.length (List.length_pos_iff.2 hne) (digitsValue_lt h)
  exact eq_of_digitsValue_eq h hdigits hlength.symm hvalue.symm

end Instant

namespace Text

/-- A digit is not blank. -/
theorem isBlank_of_isDigit {c : Char} (h : c.isDigit = true) : isBlank c = false := by
  obtain ⟨hlt, hvalue⟩ := Number.digitValue_lt h
  simp only [isBlank, blankRanges, List.any_cons, List.any_nil, Bool.or_false, Bool.or_eq_false_iff,
    Bool.and_eq_false_iff, decide_eq_false_iff_not]
  omega

theorem trimStartChars_cons {c : Char} (h : isBlank c = false) (rest : List Char) :
    trimStartChars (c :: rest) = c :: rest := by
  rw [trimStartChars, List.dropWhile_cons_of_neg (by simp [h])]

end Text

end AdminQuery
