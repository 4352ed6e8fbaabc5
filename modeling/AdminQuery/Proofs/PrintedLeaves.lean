import AdminQuery.Json.Printer
import AdminQuery.Json.Token
import AdminQuery.Proofs.DecimalTexts
import Mathlib.Data.List.TakeWhile

/-!
# Tokens of printed texts and numbers

A printed text is one token, and so is a printed number as long as 64 bits hold it.

* `escapeChar_cases`: a printed character is itself, an escape of one letter, or a general escape
* `splitText_escaped`, `codeUnits?_escaped`: the closing quote and the code units of an escaped text
* `tokens_quoted`: **a printed text is the token of that text**
* `EndsToken`, `tokens_number`, `tokens_word`: a token ends where the next character is of no such token
* `isWhole_toDigits`, `integer?_digitsLiteral`: decimal digits are a literal that has their number
* `numberToken_toDigits`, `numberToken_minus_toDigits`: the token of decimal digits, with or without a minus
* `numberToken_toString`: the decimal text of a number of 64 bits is the token of that number
* `tokens_integer`: **a printed whole number is the token of that number**
-/

namespace AdminQuery.Json

/-! ### Texts -/

/-- A character is printed as itself, as an escape of one letter, or as a general escape. -/
theorem escapeChar_cases (c : Char) :
    (∃ letter, escapeChar c = ['\\', letter] ∧ letter ≠ 'u' ∧ shortEscape? letter = some c) ∨
    (escapeChar c = controlEscape c ∧ c.toNat < 32) ∨
    (escapeChar c = [c] ∧ c ≠ '"' ∧ c ≠ '\\' ∧ 32 ≤ c.toNat) := by
  rw [escapeChar]
  split
  · rename_i h
    exact .inl ⟨'"', rfl, by decide, by rw [h]; rfl⟩
  split
  · rename_i h
    exact .inl ⟨'\\', rfl, by decide, by rw [h]; rfl⟩
  split
  · rename_i h
    exact .inl ⟨'b', rfl, by decide, by rw [h]; rfl⟩
  split
  · rename_i h
    exact .inl ⟨'t', rfl, by decide, by rw [h]; rfl⟩
  split
  · rename_i h
    exact .inl ⟨'n', rfl, by decide, by rw [h]; rfl⟩
  split
  · rename_i h
    exact .inl ⟨'f', rfl, by decide, by rw [h]; rfl⟩
  split
  · rename_i h
    exact .inl ⟨'r', rfl, by decide, by rw [h]; rfl⟩
  split
  · rename_i h
    exact .inr (.inl ⟨rfl, h⟩)
  · rename_i hquote hbackslash _ _ _ _ _ hcontrol
    exact .inr (.inr ⟨rfl, hquote, hbackslash, by omega⟩)

/-- A hexadecimal digit is no quote and no backslash, and has its value. -/
theorem hexDigit_spec {n : Nat} (h : n < 16) :
    hexDigit n ≠ '"' ∧ hexDigit n ≠ '\\' ∧ hexValue? (hexDigit n) = some n := by
  have hall : ∀ n < 16, hexDigit n ≠ '"' ∧ hexDigit n ≠ '\\' ∧ hexValue? (hexDigit n) = some n := by
    decide
  exact hall n h

/-- A character that is neither a quote nor a backslash belongs to the body of a text. -/
theorem splitText_cons {c : Char} (hquote : c ≠ '"') (hbackslash : c ≠ '\\') (rest : List Char) :
    splitText (c :: rest) = (splitText rest).map fun (body, after) => (c :: body, after) := by
  rw [splitText]
  · intro h
    exact hquote h
  · intro d after h _
    exact hbackslash h

/-- **The closing quote of an escaped text is the first one behind it.** -/
theorem splitText_escaped (cs rest : List Char) :
    splitText (cs.flatMap escapeChar ++ '"' :: rest) = some (cs.flatMap escapeChar, rest) := by
  induction cs with
  | nil => rfl
  | cons c cs ih =>
    rw [List.flatMap_cons, List.append_assoc]
    rcases escapeChar_cases c with ⟨letter, h, -, -⟩ | ⟨h, hc⟩ | ⟨h, hquote, hbackslash, -⟩
    · rw [h]
      show (splitText (cs.flatMap escapeChar ++ '"' :: rest)).map _ = _
      rw [ih]
      rfl
    · have hhigh := hexDigit_spec (n := c.toNat / 16) (by omega)
      have hlow := hexDigit_spec (n := c.toNat % 16) (by omega)
      rw [h]
      show (splitText ('0' :: '0' :: hexDigit (c.toNat / 16) :: hexDigit (c.toNat % 16) ::
        (cs.flatMap escapeChar ++ '"' :: rest))).map _ = _
      rw [splitText_cons (by decide) (by decide), splitText_cons (by decide) (by decide),
        splitText_cons hhigh.1 hhigh.2.1, splitText_cons hlow.1 hlow.2.1, ih]
      rfl
    · rw [h]
      show splitText (c :: (cs.flatMap escapeChar ++ '"' :: rest)) = _
      rw [splitText_cons hquote hbackslash, ih]
      rfl

/-- **The code units of an escaped text are the code points of its characters.** -/
theorem codeUnits?_escaped (cs : List Char) :
    codeUnits? (cs.flatMap escapeChar) = some (cs.map Char.toNat) := by
  induction cs with
  | nil => rfl
  | cons c cs ih =>
    rw [List.flatMap_cons]
    rcases escapeChar_cases c with ⟨letter, h, hletter, hvalue⟩ | ⟨h, hc⟩ | ⟨h, -, hbackslash, hc⟩
    · rw [h]
      show codeUnits? ('\\' :: letter :: cs.flatMap escapeChar) = _
      rw [codeUnits?, hvalue, ih]
      · rfl
      · intro a b c' d after hu _
        exact hletter hu
    · have hhigh := hexDigit_spec (n := c.toNat / 16) (by omega)
      have hlow := hexDigit_spec (n := c.toNat % 16) (by omega)
      have hvalue : hexValues? '0' '0' (hexDigit (c.toNat / 16)) (hexDigit (c.toNat % 16)) =
          some c.toNat := by
        rw [hexValues?, hhigh.2.2, hlow.2.2]
        show some (((0 * 16 + 0) * 16 + c.toNat / 16) * 16 + c.toNat % 16) = _
        congr 1
        omega
      rw [h]
      show codeUnits? ('\\' :: 'u' :: '0' :: '0' :: hexDigit (c.toNat / 16) ::
        hexDigit (c.toNat % 16) :: cs.flatMap escapeChar) = _
      rw [codeUnits?, hvalue, ih]
      rfl
    · rw [h]
      show codeUnits? (c :: cs.flatMap escapeChar) = _
      have hplain : ¬(c = '\\' ∨ c.toNat < 32) := by
        rintro (hc' | hc')
        · exact hbackslash hc'
        · omega
      rw [codeUnits?, if_neg hplain, ih]
      · rfl
      · intro a b c' d after hc' _
        exact hbackslash hc'
      · intro d after hc' _
        exact hbackslash hc'

/-- The code point of a character is no half of a surrogate pair. -/
theorem isSurrogate_toNat (c : Char) : isLeading c.toNat = false ∧ isTrailing c.toNat = false := by
  have hvalid : c.toNat < 0xD800 ∨ 0xDFFF < c.toNat ∧ c.toNat < 0x110000 := c.valid
  simp only [isLeading, isTrailing, Bool.and_eq_false_iff, decide_eq_false_iff_not]
  omega

/-- Code points of characters stand for these characters. -/
theorem charsOfUnits?_toNat (cs : List Char) : charsOfUnits? (cs.map Char.toNat) = some cs := by
  induction cs with
  | nil => rfl
  | cons c cs ih =>
    obtain ⟨hleading, htrailing⟩ := isSurrogate_toNat c
    rw [List.map_cons, charsOfUnits?.eq_def]
    simp [hleading, htrailing, ih]

/-- The token of an escaped text is the text. -/
theorem textToken_escaped (s : String) : textToken (s.toList.flatMap escapeChar) = .text (some s) := by
  rw [textToken, codeUnits?_escaped]
  show Token.text ((charsOfUnits? (s.toList.map Char.toNat)).map String.ofList) = _
  rw [charsOfUnits?_toNat]
  simp

/-- A text token ends behind its closing quote. -/
theorem tokens_quote {cs body after : List Char} (h : splitText cs = some (body, after)) :
    tokens ('"' :: cs) = textToken body :: tokens after := by
  rw [tokens, if_neg (by decide), if_pos rfl]
  split
  · rename_i other rest hsplit
    rw [h] at hsplit
    cases hsplit
    rfl
  · rename_i hsplit
    rw [h] at hsplit
    cases hsplit

/-- **A printed text is the token of that text.** -/
theorem tokens_quoted (s : String) (rest : List Char) :
    tokens ((quoted s).toList ++ rest) = .text (some s) :: tokens rest := by
  have hquoted : (quoted s).toList ++ rest =
      '"' :: (s.toList.flatMap escapeChar ++ '"' :: rest) := by
    simp [quoted]
  rw [hquoted, tokens_quote (splitText_escaped s.toList rest), textToken_escaped]

/-! ### Tokens that go on -/

/-- What follows a token neither continues a number nor a word. -/
def EndsToken (rest : List Char) : Prop :=
  ∀ c ∈ rest.head?, isNumeric c = false ∧ c.isAlpha = false

theorem endsToken_nil : EndsToken [] := by
  intro c hc
  cases hc

theorem endsToken_cons {c : Char} (hnumeric : isNumeric c = false) (halpha : c.isAlpha = false)
    (rest : List Char) : EndsToken (c :: rest) := by
  intro d hd
  cases hd
  exact ⟨hnumeric, halpha⟩

/-- A row of characters of one class ends where the class ends. -/
theorem span_append {p : Char → Bool} {cs rest : List Char} (hcs : ∀ c ∈ cs, p c = true)
    (hrest : ∀ c ∈ rest.head?, p c = false) :
    (cs ++ rest).takeWhile p = cs ∧ (cs ++ rest).dropWhile p = rest := by
  rw [List.takeWhile_append_of_pos hcs, List.dropWhile_append_of_pos hcs]
  cases rest with
  | nil => simp
  | cons c rest => simp [hrest c rfl]

/-- A number literal ends where no character of numbers follows. -/
theorem tokens_number {c : Char} {cs rest : List Char} (hc : (c.isDigit || c == '-') = true)
    (hcs : ∀ d ∈ cs, isNumeric d = true) (hrest : EndsToken rest) :
    tokens (c :: cs ++ rest) = numberToken (c :: cs) :: tokens rest := by
  have hgap : isGap c = false := by
    rw [← Bool.not_eq_true]
    intro h
    simp only [isGap, Bool.or_eq_true, beq_iff_eq] at h
    rcases h with ((rfl | rfl) | rfl) | rfl <;> exact absurd hc (by decide)
  have hquote : c ≠ '"' := by
    rintro rfl
    exact absurd hc (by decide)
  obtain ⟨htake, hdrop⟩ := span_append hcs fun d hd => (hrest d hd).1
  show tokens (c :: (cs ++ rest)) = _
  rw [tokens, hgap, if_neg (by decide), if_neg hquote, if_pos hc, htake, hdrop]

/-- A word that starts with a letter ends where no letter follows. -/
theorem tokens_word {c : Char} {cs rest : List Char} (hgap : isGap c = false)
    (hnumber : (c.isDigit || c == '-') = false) (hword : (c :: cs).all Char.isAlpha = true)
    (hrest : EndsToken rest) : tokens (c :: cs ++ rest) = wordToken (c :: cs) :: tokens rest := by
  rw [List.all_eq_true, List.forall_mem_cons] at hword
  have hquote : c ≠ '"' := by
    rintro rfl
    exact absurd hword.1 (by decide)
  obtain ⟨htake, hdrop⟩ := span_append hword.2 fun d hd => (hrest d hd).2
  show tokens (c :: (cs ++ rest)) = _
  rw [tokens, hgap, if_neg (by decide), if_neg hquote, hnumber, if_neg (by decide), if_pos hword.1,
    htake, hdrop]

/-! ### Whole numbers -/

/-- The decimal digits of a number other than zero do not start with a zero. -/
theorem toDigits_head_ne {n : Nat} (h : n ≠ 0) : (Nat.toDigits 10 n).head? ≠ some '0' := by
  induction n using Nat.strongRecOn with
  | ind n ih =>
    rcases Nat.lt_or_ge n 10 with hlt | hge
    · rw [Nat.toDigits_of_lt_base hlt]
      have hall : ∀ k < 10, k ≠ 0 → [k.digitChar].head? ≠ some '0' := by decide
      exact hall n hlt h
    · have hrest := ih (n / 10) (by omega) (by omega)
      obtain ⟨c, cs, hcs⟩ := List.exists_cons_of_ne_nil (Nat.toDigits_ne_nil (n := n / 10) (b := 10))
      rw [Nat.toDigits_of_base_le (by decide) hge, hcs]
      rwa [hcs] at hrest

/-- The decimal digits of a number are written as JSON writes whole numbers. -/
theorem isWhole_toDigits (n : Nat) : NumberLiteral.isWhole (Nat.toDigits 10 n) = true := by
  have hdigits : ∀ c ∈ Nat.toDigits 10 n, c.isDigit = true := by
    intro c hc
    exact Nat.isDigit_of_mem_toDigits (by decide) (by decide) hc
  rcases Nat.eq_zero_or_pos n with rfl | hpos
  · decide
  · have hhead := toDigits_head_ne (n := n) (by omega)
    cases hcs : Nat.toDigits 10 n with
    | nil => exact absurd hcs Nat.toDigits_ne_nil
    | cons c rest =>
      rw [hcs, List.forall_mem_cons] at hdigits
      rw [hcs] at hhead
      cases rest with
      | nil => simp [NumberLiteral.isWhole, hdigits.1]
      | cons d rest =>
        have hc : c ≠ '0' := by
          rintro rfl
          exact hhead rfl
        simpa [NumberLiteral.isWhole, hdigits.1, hc] using hdigits.2

/-- One more digit joins the significand as long as 64 bits hold it. -/
theorem takeWholeDigit_of_le {front : Nat} {c : Char}
    (h : 10 * front + Number.digitValue c ≤ NumberLiteral.maxSignificand) :
    NumberLiteral.takeWholeDigit ⟨front, 0, false⟩ c = ⟨10 * front + Number.digitValue c, 0, false⟩ := by
  rw [NumberLiteral.takeWholeDigit]
  simp only [Bool.false_or, decide_eq_true_eq]
  rw [if_neg (by omega), Nat.mul_comm]

/-- Whole digits join the significand as long as 64 bits hold the number that they write. -/
theorem foldl_takeWholeDigit {digits : List Char} {front : Nat}
    (h : Nat.ofDigitChars 10 digits front ≤ NumberLiteral.maxSignificand) :
    digits.foldl NumberLiteral.takeWholeDigit ⟨front, 0, false⟩ =
      ⟨Nat.ofDigitChars 10 digits front, 0, false⟩ := by
  induction digits generalizing front with
  | nil => simp
  | cons c digits ih =>
    rw [Nat.ofDigitChars_cons] at h ⊢
    have hnext : 10 * front + Number.digitValue c ≤ NumberLiteral.maxSignificand :=
      Nat.le_trans (Number.le_ofDigitChars digits _) h
    rw [List.foldl_cons, takeWholeDigit_of_le hnext]
    exact ih h

/-- The literal of decimal digits, with or without a minus. -/
def digitsLiteral (negative : Bool) (n : Nat) : NumberLiteral :=
  ⟨negative, Nat.toDigits 10 n, none, none⟩

/-- The literal of digits has the value that the digits write. -/
theorem integer?_digitsLiteral {negative : Bool} {n : Nat} (h : n ≤ NumberLiteral.maxSignificand) :
    (digitsLiteral negative n).integer? =
      if !negative then some (n : Int)
      else if n ≠ 0 ∧ Number.minInteger ≤ -(n : Int) then some (-(n : Int)) else none := by
  have hscaled : (digitsLiteral negative n).scaledWhole = ⟨n, 0, false⟩ := by
    have hdigits : Nat.ofDigitChars 10 (Nat.toDigits 10 n) 0 = n := Nat.ofDigitChars_ten_toDigits
    rw [NumberLiteral.scaledWhole, digitsLiteral, foldl_takeWholeDigit (by rw [hdigits]; exact h),
      hdigits]
  rw [NumberLiteral.integer?, hscaled]
  rfl

/-- A row of digits is its own whole part. -/
theorem ofChars?_toDigits (n : Nat) :
    NumberLiteral.ofChars? (Nat.toDigits 10 n) = some (digitsLiteral false n) ∧
    NumberLiteral.ofChars? ('-' :: Nat.toDigits 10 n) = some (digitsLiteral true n) := by
  have hdigits : ∀ c ∈ Nat.toDigits 10 n, c.isDigit = true := by
    intro c hc
    exact Nat.isDigit_of_mem_toDigits (by decide) (by decide) hc
  have htake : (Nat.toDigits 10 n).takeWhile Char.isDigit = Nat.toDigits 10 n :=
    List.takeWhile_eq_self_iff.2 hdigits
  have hdrop : (Nat.toDigits 10 n).dropWhile Char.isDigit = [] := List.dropWhile_eq_nil_iff.2 hdigits
  constructor
  · rw [NumberLiteral.ofChars?]
    · rw [htake, hdrop, if_pos (isWhole_toDigits n)]
      rfl
    · intro rest hminus
      rw [hminus] at hdigits
      exact absurd (hdigits '-' List.mem_cons_self) (by decide)
  · rw [NumberLiteral.ofChars?]
    show (if NumberLiteral.isWhole ((Nat.toDigits 10 n).takeWhile Char.isDigit) then _ else _) = _
    rw [htake, hdrop, if_pos (isWhole_toDigits n)]
    rfl

/-- The token of decimal digits is the number that they write. -/
theorem numberToken_toDigits {n : Nat} (h : n ≤ NumberLiteral.maxSignificand) :
    numberToken (Nat.toDigits 10 n) = .leaf (.number (some (.integer n))) := by
  rw [numberToken, (ofChars?_toDigits n).1]
  show Token.leaf (.number (digitsLiteral false n).value?) = _
  rw [NumberLiteral.value?, integer?_digitsLiteral h]
  rfl

/-- The token of a minus and decimal digits is the negative number, if it is one. -/
theorem numberToken_minus_toDigits {n : Nat} (hne : n ≠ 0)
    (h : Number.minInteger ≤ -(n : Int)) :
    numberToken ('-' :: Nat.toDigits 10 n) = .leaf (.number (some (.integer (-n)))) := by
  have hmax : n ≤ NumberLiteral.maxSignificand := by
    rw [Number.minInteger] at h
    rw [NumberLiteral.maxSignificand]
    omega
  rw [numberToken, (ofChars?_toDigits n).2]
  show Token.leaf (.number (digitsLiteral true n).value?) = _
  rw [NumberLiteral.value?, integer?_digitsLiteral hmax, if_neg (by decide), if_pos ⟨hne, h⟩]

/-- The whole numbers that a printed number is read back from. -/
def InWord (n : Int) : Prop :=
  Number.minInteger ≤ n ∧ n ≤ NumberLiteral.maxSignificand

theorem numberToken_toString {n : Int} (h : InWord n) :
    numberToken (toString n).toList = .leaf (.number (some (.integer n))) := by
  obtain ⟨hlow, hhigh⟩ := h
  cases n with
  | ofNat k =>
    rw [Number.toList_toString_ofNat, numberToken_toDigits (Int.ofNat_le.1 hhigh)]
    rfl
  | negSucc k =>
    rw [Number.toList_toString_negSucc, numberToken_minus_toDigits (Nat.succ_ne_zero k) hlow]
    rfl

/-- **A printed whole number of 64 bits is the token of that number.** -/
theorem tokens_integer {n : Int} (h : InWord n) {rest : List Char} (hrest : EndsToken rest) :
    tokens ((toString n).toList ++ rest) =
      .leaf (.number (some (.integer n))) :: tokens rest := by
  have hdigit : ∀ k, ∀ c ∈ Nat.toDigits 10 k, c.isDigit = true := fun k c hc =>
    Nat.isDigit_of_mem_toDigits (by decide) (by decide) hc
  have hnumeric : ∀ c : Char, c.isDigit = true → isNumeric c = true := fun c hc => by simp [isNumeric, hc]
  obtain ⟨c, cs, hcs, hc, htail⟩ : ∃ c cs, (toString n).toList = c :: cs ∧
      (c.isDigit || c == '-') = true ∧ ∀ d ∈ cs, d.isDigit = true := by
    cases n with
    | ofNat k =>
      obtain ⟨c, cs, hcs⟩ := List.exists_cons_of_ne_nil (Nat.toDigits_ne_nil (n := k) (b := 10))
      have hall := hdigit k
      rw [hcs, List.forall_mem_cons] at hall
      exact ⟨c, cs, by rw [Number.toList_toString_ofNat, hcs], by simp [hall.1], hall.2⟩
    | negSucc k => exact ⟨'-', _, Number.toList_toString_negSucc k, by decide, hdigit (k + 1)⟩
  rw [hcs, tokens_number hc (fun d hd => hnumeric d (htail d hd)) hrest, ← hcs, numberToken_toString h]

end AdminQuery.Json
