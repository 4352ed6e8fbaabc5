import AdminQuery.Proofs.PrintedLeaves

/-!
# Whole numbers as JSON writes them

Every whole number of 64 bits, with or without a sign, has one literal; all other literals are doubles.

* `NumberLiteral.eq_of_isWhole`: **digits without leading zeros are known by the number they write**
* `NumberLiteral.ofDigitChars_le_of_foldl`: digits that all fit write a number that fits
* `NumberLiteral.WritesWhole`, `NumberLiteral.writesWhole_of_integer?`: a literal that is read as a whole number is
  a sign and digits
* `numberToken_eq_integer_iff`: **the token of a whole number is the token of its decimal text**
-/

namespace AdminQuery.Json

open AdminQuery.Number (AllDigits digitsValue digitValue)

namespace NumberLiteral

/-! ### Digits without leading zeros -/

section Whole

variable {cs ds : List Char}

/-- Digits as JSON writes them are one digit, or start with another one than zero. -/
theorem isWhole_cases (h : isWhole cs = true) : AllDigits cs ∧
    ((∃ c, cs = [c]) ∨ ∃ c d rest, cs = c :: d :: rest ∧ c ≠ '0') := by
  match cs with
  | [c] =>
    refine ⟨?_, .inl ⟨c, rfl⟩⟩
    intro d hd
    rw [List.mem_singleton.1 hd]
    exact h
  | c :: d :: rest =>
    simp only [isWhole, Bool.and_eq_true, List.all_eq_true, bne_iff_ne] at h
    exact ⟨List.forall_mem_cons.2 ⟨h.1.1, h.2⟩, .inr ⟨c, d, rest, rfl, h.1.2⟩⟩

/-- More digits write a greater number, unless they start with a zero. -/
theorem length_le_of_digitsValue_eq (hcs : isWhole cs = true) (hds : isWhole ds = true)
    (h : digitsValue cs = digitsValue ds) : cs.length ≤ ds.length := by
  obtain ⟨hdigits, ⟨c, rfl⟩ | ⟨c, d, rest, rfl, hc⟩⟩ := isWhole_cases hcs
  · cases ds with
    | nil => cases hds
    | cons e es => exact Nat.succ_le_succ (Nat.zero_le _)
  · have hpos : 1 ≤ digitValue c := by
      have hvalue := (Number.digitValue_lt (hdigits c List.mem_cons_self)).2
      have hne : c.toNat ≠ '0'.toNat := fun heq => hc (Char.toNat_inj.1 heq)
      have hzero : '0'.toNat = 48 := rfl
      omega
    have hlow : 10 ^ (d :: rest).length ≤ digitsValue ds := by
      rw [← h, Number.digitsValue_cons]
      exact Nat.le_add_right_of_le (Nat.le_mul_of_pos_right _ hpos)
    have hhigh := Number.digitsValue_lt (isWhole_cases hds).1
    exact (Nat.pow_lt_pow_iff_right (by decide)).1 (Nat.lt_of_le_of_lt hlow hhigh)

/-- **Digits without leading zeros are known by the number they write.** -/
theorem eq_of_isWhole (hcs : isWhole cs = true) (hds : isWhole ds = true)
    (h : digitsValue cs = digitsValue ds) : cs = ds :=
  Number.eq_of_digitsValue_eq (isWhole_cases hcs).1 (isWhole_cases hds).1
    (Nat.le_antisymm (length_le_of_digitsValue_eq hcs hds h) (length_le_of_digitsValue_eq hds hcs h.symm)) h

theorem eq_toDigits_of_isWhole (h : isWhole cs = true) : cs = Nat.toDigits 10 (digitsValue cs) :=
  eq_of_isWhole h (isWhole_toDigits _) Nat.ofDigitChars_ten_toDigits.symm

end Whole

/-! ### Significands -/

/-- Once a digit did not fit, none does. -/
theorem foldl_takeWholeDigit_full {scaled : Scaled} (h : scaled.full = true) (digits : List Char) :
    (digits.foldl takeWholeDigit scaled).full = true := by
  induction digits generalizing scaled with
  | nil => exact h
  | cons c digits ih =>
    rw [List.foldl_cons]
    apply ih
    rw [takeWholeDigit, h, Bool.true_or, if_pos rfl]

/-- If every whole digit fits, 64 bits hold the number that they write. -/
theorem ofDigitChars_le_of_foldl {digits : List Char} {front : Nat} (hfront : front ≤ maxSignificand)
    (h : (digits.foldl takeWholeDigit ⟨front, 0, false⟩).full = false) :
    Nat.ofDigitChars 10 digits front ≤ maxSignificand := by
  induction digits generalizing front with
  | nil => exact hfront
  | cons c digits ih =>
    rw [List.foldl_cons] at h
    rw [Nat.ofDigitChars_cons]
    by_cases hnext : 10 * front + digitValue c ≤ maxSignificand
    · rw [takeWholeDigit_of_le hnext] at h
      exact ih hnext h
    · have hfull : (takeWholeDigit ⟨front, 0, false⟩ c).full = true := by
        rw [Nat.mul_comm] at hnext
        simp [takeWholeDigit, Nat.lt_of_not_le hnext]
      rw [foldl_takeWholeDigit_full hfull] at h
      cases h

/-! ### Literals of whole numbers -/

/-- A literal without point and exponent that writes a whole number of 64 bits, which is not zero behind a
minus. -/
structure WritesWhole (literal : NumberLiteral) (n : Int) : Prop where
  fraction : literal.fraction = none
  exponent : literal.exponent = none
  value : n = if literal.negative then -(digitsValue literal.whole : Int) else digitsValue literal.whole
  inWord : InWord n
  not_minus_zero : literal.negative = true → n ≠ 0

theorem writesWhole_of_integer? {literal : NumberLiteral} {n : Int} (h : literal.integer? = some n) :
    literal.WritesWhole n := by
  cases hscaled : literal.scaledWhole with
  | mk significand scale full =>
    rw [integer?, hscaled] at h
    simp only at h
    split at h
    · cases h
    rename_i hplain
    simp only [Bool.or_eq_true, not_or, Bool.not_eq_true, Option.isSome_eq_false_iff,
      Option.isNone_iff_eq_none] at hplain
    obtain ⟨⟨hfraction, hexponent⟩, rfl⟩ := hplain
    have hle : digitsValue literal.whole ≤ maxSignificand := by
      apply ofDigitChars_le_of_foldl (Nat.zero_le _)
      rw [← scaledWhole, hscaled]
    have hsignificand : significand = digitsValue literal.whole := by
      rw [scaledWhole, foldl_takeWholeDigit hle] at hscaled
      exact (congrArg Scaled.significand hscaled).symm
    subst hsignificand
    cases hnegative : literal.negative with
    | false =>
      rw [hnegative] at h
      obtain rfl := Option.some.inj h
      refine ⟨hfraction, hexponent, by rw [hnegative]; rfl, ⟨?_, Int.ofNat_le.2 hle⟩, by simp [hnegative]⟩
      rw [Number.minInteger]
      omega
    | true =>
      rw [hnegative] at h
      obtain ⟨⟨hne, hlow⟩, hn⟩ := Option.ite_none_right_eq_some.1 h
      obtain rfl := Option.some.inj hn
      refine ⟨hfraction, hexponent, by rw [hnegative]; rfl, ⟨hlow, ?_⟩, fun _ => by omega⟩
      rw [maxSignificand]
      omega

theorem eq_of_fractionOfChars? {cs rest : List Char} (h : fractionOfChars? cs = some (none, rest)) :
    rest = cs := by
  rw [fractionOfChars?.eq_def] at h
  split at h
  · simp at h
  · cases h
    rfl

theorem eq_nil_of_exponentOfChars? {cs : List Char} (h : exponentOfChars? cs = some none) : cs = [] := by
  cases cs with
  | nil => rfl
  | cons c rest => simp [exponentOfChars?] at h

/-- The literal of what follows a sign. -/
def ofUnsigned? (negative : Bool) (cs : List Char) : Option NumberLiteral :=
  if isWhole (cs.takeWhile Char.isDigit) then do
    let (fraction, rest) ← fractionOfChars? (cs.dropWhile Char.isDigit)
    let exponent ← exponentOfChars? rest
    return { negative, whole := cs.takeWhile Char.isDigit, fraction, exponent }
  else
    none

/-- A literal may start with a minus. -/
theorem ofChars?_cases (cs : List Char) :
    (∃ rest, cs = '-' :: rest ∧ ofChars? cs = ofUnsigned? true rest) ∨ ofChars? cs = ofUnsigned? false cs := by
  rw [ofChars?.eq_def]
  split
  rename_i h
  split at h
  · cases h
    exact .inl ⟨_, rfl, rfl⟩
  · cases h
    exact .inr rfl

/-- Without point and exponent there are only digits behind the sign. -/
theorem eq_of_ofUnsigned? {negative : Bool} {cs : List Char} {literal : NumberLiteral}
    (h : ofUnsigned? negative cs = some literal) (hfraction : literal.fraction = none)
    (hexponent : literal.exponent = none) :
    literal.negative = negative ∧ isWhole literal.whole = true ∧ cs = literal.whole := by
  obtain ⟨hwhole, h⟩ := Option.ite_none_right_eq_some.1 h
  obtain ⟨⟨fraction, rest⟩, hrest, h⟩ := Option.bind_eq_some_iff.1 h
  obtain ⟨exponent, hend, h⟩ := Option.bind_eq_some_iff.1 h
  cases h
  cases hfraction
  cases hexponent
  have hdrop : cs.dropWhile Char.isDigit = [] := by
    rw [← eq_of_fractionOfChars? hrest]
    exact eq_nil_of_exponentOfChars? hend
  have htake := List.takeWhile_append_dropWhile (p := Char.isDigit) (l := cs)
  rw [hdrop, List.append_nil] at htake
  exact ⟨rfl, hwhole, htake.symm⟩

end NumberLiteral

/-! ### Tokens of whole numbers -/

/-- The characters of a literal of a whole number are its decimal text. -/
theorem eq_toString_of_ofChars? {cs : List Char} {literal : NumberLiteral} {n : Int}
    (hliteral : NumberLiteral.ofChars? cs = some literal) (h : literal.WritesWhole n) :
    cs = (toString n).toList := by
  have hvalue := h.value
  rcases NumberLiteral.ofChars?_cases cs with ⟨rest, rfl, hsign⟩ | hsign
  · rw [hsign] at hliteral
    obtain ⟨hnegative, hwhole, rfl⟩ := NumberLiteral.eq_of_ofUnsigned? hliteral h.fraction h.exponent
    have hdigits := NumberLiteral.eq_toDigits_of_isWhole hwhole
    have hne := h.not_minus_zero hnegative
    rw [if_pos hnegative] at hvalue
    cases hk : digitsValue literal.whole with
    | zero =>
      rw [hk] at hvalue
      exact absurd hvalue hne
    | succ k =>
      rw [hk] at hvalue hdigits
      have hn : n = Int.negSucc k := hvalue
      rw [hn, Number.toList_toString_negSucc, ← hdigits]
  · rw [hsign] at hliteral
    obtain ⟨hnegative, hwhole, rfl⟩ := NumberLiteral.eq_of_ofUnsigned? hliteral h.fraction h.exponent
    rw [hnegative, if_neg Bool.false_ne_true] at hvalue
    have hn : n = Int.ofNat (digitsValue literal.whole) := hvalue
    rw [hn, Number.toList_toString_ofNat, ← NumberLiteral.eq_toDigits_of_isWhole hwhole]

theorem value?_eq_integer_iff {literal : NumberLiteral} {n : Int} :
    literal.value? = some (.integer n) ↔ literal.integer? = some n := by
  rw [NumberLiteral.value?]
  cases literal.integer? with
  | none => simp
  | some m => simp

/-- **The token of a whole number is the token of its decimal text**, and every whole number of 64 bits, with or
without a sign, has one. -/
theorem numberToken_eq_integer_iff {cs : List Char} {n : Int} :
    numberToken cs = .leaf (.number (some (.integer n))) ↔ InWord n ∧ cs = (toString n).toList := by
  constructor
  · intro h
    rw [numberToken] at h
    split at h
    · rename_i literal hliteral
      simp only [Token.leaf.injEq, Document.number.injEq, value?_eq_integer_iff] at h
      have hwrites := NumberLiteral.writesWhole_of_integer? h
      exact ⟨hwrites.inWord, eq_toString_of_ofChars? hliteral hwrites⟩
    · cases h
  · rintro ⟨h, rfl⟩
    exact numberToken_toString h

end AdminQuery.Json
