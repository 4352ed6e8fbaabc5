import AdminQuery.Proofs.RelativeDays

/-!
# Conditions on whole numbers

A column of whole numbers is tested against the one number that a text writes, with blanks around it or
without, as long as 64 bits hold it.

* `Text.exists_eq_trimChars`, `Text.trimChars_append`: what trimming takes away, and what it leaves
* `Number.HoldsInteger`: a text that writes a number, with nothing but blanks around it
* `Number.writesInteger_toString`: a number is written by its decimal text
* `Number.checkedInteger?`, `Number.checkedInteger?_eq`: **no digit overflows unnoticed**
* `integer?_trim_eq_some_iff`, `integer?_trim_toString`: the texts that name a number of 64 bits
* `condition?_of_toString`: **the decimal text of a number tests for it, if 64 bits hold it**
* `integer_filters_are_exact`: **the condition of a filter on whole numbers, and when there is one**
-/

namespace AdminQuery

/-! ### Blanks around a text -/

namespace Text

variable {cs : List Char}

/-- Trimming takes away blanks at the two ends. -/
theorem exists_eq_trimChars (cs : List Char) :
    ∃ front back, cs = front ++ trimChars cs ++ back ∧ (∀ c ∈ front, isBlank c = true) ∧
      ∀ c ∈ back, isBlank c = true := by
  have hsplit (ds : List Char) : ds = ds.takeWhile isBlank ++ trimStartChars ds :=
    List.takeWhile_append_dropWhile.symm
  have hblank (ds : List Char) : ∀ c ∈ ds.takeWhile isBlank, isBlank c = true := by
    intro c hc
    exact List.all_eq_true.1 (List.all_takeWhile) c hc
  have hback := congrArg List.reverse (hsplit (trimStartChars cs).reverse)
  rw [List.reverse_reverse, List.reverse_append] at hback
  refine ⟨cs.takeWhile isBlank, ((trimStartChars cs).reverse.takeWhile isBlank).reverse, ?_, hblank cs, ?_⟩
  · rw [trimChars, List.append_assoc, ← hback]
    exact hsplit cs
  · intro c hc
    exact hblank _ c (List.mem_reverse.1 hc)

/-- What starts and ends without a blank is left when the blanks around it are trimmed. -/
theorem trimChars_append {front back : List Char} (hfront : ∀ c ∈ front, isBlank c = true)
    (hback : ∀ c ∈ back, isBlank c = true) (hne : cs ≠ []) (hhead : ∀ c ∈ cs.head?, isBlank c = false)
    (hlast : ∀ c ∈ cs.getLast?, isBlank c = false) : trimChars (front ++ cs ++ back) = cs := by
  have hstart : trimStartChars (front ++ cs ++ back) = cs ++ back := by
    cases cs with
    | nil => exact absurd rfl hne
    | cons c rest =>
      rw [List.append_assoc, trimStartChars, List.dropWhile_append_of_pos hfront]
      exact trimStartChars_cons (hhead c rfl) _
  have hend : trimStartChars (back.reverse ++ cs.reverse) = cs.reverse := by
    rw [trimStartChars, List.dropWhile_append_of_pos fun c hc => hback c (List.mem_reverse.1 hc)]
    cases hcs : cs.reverse with
    | nil => rfl
    | cons c rest =>
      refine trimStartChars_cons (hlast c ?_) rest
      rw [List.getLast?_eq_head?_reverse, hcs]
      rfl
  rw [trimChars, hstart, List.reverse_append, hend, List.reverse_reverse]

end Text

namespace Number

/-! ### Written numbers -/

/-- A text that writes a number, with nothing but blanks around it. -/
def HoldsInteger (value : String) (n : Int) : Prop :=
  ∃ front number back, value.toList = front ++ number ++ back ∧
    (∀ c ∈ front, Text.isBlank c = true) ∧ (∀ c ∈ back, Text.isBlank c = true) ∧ WritesInteger number n

/-- A written number neither starts nor ends with a blank. -/
theorem WritesInteger.isBlank_eq_false {cs : List Char} {n : Int} (h : WritesInteger cs n) :
    cs ≠ [] ∧ (∀ c ∈ cs.head?, Text.isBlank c = false) ∧ ∀ c ∈ cs.getLast?, Text.isBlank c = false := by
  obtain ⟨digits, hne, hdigits, hform⟩ := h
  have hblank : ∀ c ∈ digits, Text.isBlank c = false := fun c hc => Text.isBlank_of_isDigit (hdigits c hc)
  have hlast (sign : Char) : (sign :: digits).getLast? = digits.getLast? := by
    rw [List.getLast?_cons, List.getLast?_eq_some_getLast hne]
    rfl
  rcases hform with ⟨rfl | rfl, -⟩ | ⟨rfl, -⟩
  · exact ⟨hne, fun c hc => hblank c (List.mem_of_mem_head? hc),
      fun c hc => hblank c (List.mem_of_mem_getLast? hc)⟩
  · refine ⟨List.cons_ne_nil _ _, ?_, ?_⟩
    · rintro c ⟨⟩
      decide
    · intro c hc
      rw [hlast] at hc
      exact hblank c (List.mem_of_mem_getLast? hc)
  · refine ⟨List.cons_ne_nil _ _, ?_, ?_⟩
    · rintro c ⟨⟩
      decide
    · intro c hc
      rw [hlast] at hc
      exact hblank c (List.mem_of_mem_getLast? hc)

/-- Trimming uncovers the number that a text writes between blanks, and nothing else. -/
theorem writesInteger_trim_iff {value : String} {n : Int} :
    WritesInteger (Text.trim value).toList n ↔ HoldsInteger value n := by
  rw [Text.toList_trim]
  constructor
  · intro h
    obtain ⟨front, back, hvalue, hfront, hback⟩ := Text.exists_eq_trimChars value.toList
    exact ⟨front, _, back, hvalue, hfront, hback, h⟩
  · rintro ⟨front, number, back, hvalue, hfront, hback, h⟩
    obtain ⟨hne, hhead, hlast⟩ := h.isBlank_eq_false
    rwa [hvalue, Text.trimChars_append hfront hback hne hhead hlast]

/-- A number is written by its decimal text. -/
theorem writesInteger_toString (n : Int) : WritesInteger (toString n).toList n := by
  have hdigits (k : Nat) : Nat.toDigits 10 k ≠ [] ∧ AllDigits (Nat.toDigits 10 k) ∧
      digitsValue (Nat.toDigits 10 k) = k :=
    ⟨Nat.toDigits_ne_nil, fun c hc => Nat.isDigit_of_mem_toDigits (by decide) (by decide) hc,
      Nat.ofDigitChars_ten_toDigits⟩
  cases n with
  | ofNat k =>
    obtain ⟨hne, hall, hvalue⟩ := hdigits k
    rw [toList_toString_ofNat]
    exact ⟨_, hne, hall, .inl ⟨.inl rfl, by rw [hvalue]; rfl⟩⟩
  | negSucc k =>
    obtain ⟨hne, hall, hvalue⟩ := hdigits (k + 1)
    rw [toList_toString_negSucc]
    exact ⟨_, hne, hall, .inr ⟨rfl, by rw [hvalue]; rfl⟩⟩

/-- A text holds one number at most. -/
theorem HoldsInteger.unique {value : String} {n m : Int} (h : HoldsInteger value n)
    (h' : HoldsInteger value m) : n = m := by
  rw [← writesInteger_trim_iff, writesInteger_iff] at h h'
  rw [h.2, h'.2]

theorem holdsInteger_toString (n : Int) : HoldsInteger (toString n) n :=
  ⟨[], (toString n).toList, [], by simp, by simp, by simp, writesInteger_toString n⟩

/-! ### Digit after digit -/

/-- A number on the side of zero that a sign names. -/
def signed (negative : Bool) (n : Nat) : Int :=
  if negative then -(n : Int) else n

/-- A number with one more digit, where neither its tenfold nor the sum may overflow. -/
def appendDigit? (negative : Bool) (n : Int) (c : Char) : Option Int := do
  let tenfold ← checked? (n * 10)
  checked? (tenfold + signed negative (digitValue c))

/-- The integer that a text writes, read digit after digit, where every step looks out for an overflow. -/
def checkedInteger? (cs : List Char) : Option Int :=
  let (negative, digits) := splitSign cs
  if isDigits digits then digits.foldlM (appendDigit? negative) 0 else none

/-- What is not held is not held farther away from zero. -/
theorem checked?_signed_eq_none {negative : Bool} {n m : Nat} (hle : n ≤ m)
    (h : checked? (signed negative n) = none) : checked? (signed negative m) = none := by
  rw [checked?, ite_eq_right_iff] at h ⊢
  rintro ⟨hlow, hhigh⟩
  refine absurd (h ?_) (by simp)
  rw [minInteger, maxInteger] at *
  cases negative with
  | false =>
    change -9223372036854775808 ≤ (m : Int) at hlow
    change (m : Int) ≤ 9223372036854775807 at hhigh
    show -9223372036854775808 ≤ (n : Int) ∧ (n : Int) ≤ 9223372036854775807
    omega
  | true =>
    change -9223372036854775808 ≤ -(m : Int) at hlow
    change -(m : Int) ≤ 9223372036854775807 at hhigh
    show -9223372036854775808 ≤ -(n : Int) ∧ -(n : Int) ≤ 9223372036854775807
    omega

theorem eq_of_checked?_eq_some {n m : Int} (h : checked? n = some m) : m = n := by
  rw [checked?, Option.ite_none_right_eq_some] at h
  exact (Option.some.inj h.2).symm

theorem signed_mul_ten (negative : Bool) (n : Nat) : signed negative n * 10 = signed negative (10 * n) := by
  cases negative with
  | false =>
    show (n : Int) * 10 = ((10 * n : Nat) : Int)
    omega
  | true =>
    show -(n : Int) * 10 = -((10 * n : Nat) : Int)
    omega

theorem signed_add (negative : Bool) (n m : Nat) :
    signed negative n + signed negative m = signed negative (n + m) := by
  cases negative with
  | false => exact (Int.natCast_add n m).symm
  | true =>
    show -(n : Int) + -(m : Int) = -((n + m : Nat) : Int)
    omega

/-- One more digit gives the number that it completes, if 64 bits hold that. -/
theorem appendDigit?_signed (negative : Bool) (n : Nat) (c : Char) :
    appendDigit? negative (signed negative n) c = checked? (signed negative (10 * n + digitValue c)) := by
  rw [appendDigit?, Option.bind_eq_bind, signed_mul_ten]
  cases h : checked? (signed negative (10 * n)) with
  | none => exact (checked?_signed_eq_none (Nat.le_add_right _ _) h).symm
  | some tenfold => rw [eq_of_checked?_eq_some h, Option.bind_some, signed_add]

/-- **Digits that are read one after another give the number that all of them write, if 64 bits hold it**: once a
step overflows, no digits behind it could lead back. -/
theorem foldlM_appendDigit? {negative : Bool} {digits : List Char} {n : Nat}
    (h : checked? (signed negative n) = some (signed negative n)) :
    digits.foldlM (appendDigit? negative) (signed negative n) =
      checked? (signed negative (Nat.ofDigitChars 10 digits n)) := by
  induction digits generalizing n with
  | nil => exact h.symm
  | cons c digits ih =>
    rw [List.foldlM_cons, appendDigit?_signed, Nat.ofDigitChars_cons]
    show checked? (signed negative (10 * n + digitValue c)) >>= _ =
      checked? (signed negative (Nat.ofDigitChars 10 digits (10 * n + digitValue c)))
    cases hnext : checked? (signed negative (10 * n + digitValue c)) with
    | none => exact (checked?_signed_eq_none (le_ofDigitChars digits _) hnext).symm
    | some next =>
      obtain rfl := eq_of_checked?_eq_some hnext
      exact ih hnext

/-- **No digit overflows unnoticed**: reading digit after digit gives the integer that a text writes. -/
theorem checkedInteger?_eq (cs : List Char) : checkedInteger? cs = integerOfChars? cs := by
  rw [checkedInteger?, integerOfChars?]
  obtain ⟨negative, digits⟩ := splitSign cs
  show (if isDigits digits = true then digits.foldlM (appendDigit? negative) 0 else none) =
    if isDigits digits = true then checked? (signed negative (digitsValue digits)) else none
  split
  · have hzero : (0 : Int) = signed negative 0 := by cases negative <;> rfl
    rw [hzero, foldlM_appendDigit? (by cases negative <;> rfl), digitsValue]
  · rfl

end Number

open Number

/-! ### Conditions -/

/-- A column with one value. -/
def Condition.equals (column : String) (value : Binding) : Condition :=
  ⟨"(" ++ column ++ " = ?)", [value]⟩

theorem condition_equals (column : String) (value : Binding) :
    Atom.condition ⟨column, .equals value⟩ = .equals column value := by
  simp [Atom.condition, Predicate.sql, Predicate.bindings, Condition.equals, String.append_assoc]

/-- **The texts that name a number are those that hold one which fits in 64 bits.** -/
theorem integer?_trim_eq_some_iff {value : String} {n : Int} :
    integer? (Text.trim value) = some n ↔ HoldsInteger value n ∧ minInteger ≤ n ∧ n ≤ maxInteger := by
  rw [integer?, integerOfChars?_eq_some_iff, writesInteger_trim_iff]

/-- The decimal text of a number names it if 64 bits hold it, and no other number. -/
theorem integer?_trim_toString (n : Int) : integer? (Text.trim (toString n)) = checked? n := by
  ext m
  rw [integer?_trim_eq_some_iff, checked?, Option.ite_none_right_eq_some, Option.some.injEq]
  constructor
  · rintro ⟨hm, hrange⟩
    obtain rfl := (holdsInteger_toString n).unique hm
    exact ⟨hrange, rfl⟩
  · rintro ⟨hrange, rfl⟩
    exact ⟨holdsInteger_toString n, hrange⟩

section Entries

variable {operator : Option String} {value : String} (style : PatternStyle) (column : String) (now : Instant)

/-- On a column of whole numbers an entry without control tokens tests for the number that its value names. -/
theorem condition?_of_integer (hoperator : ∀ token ∈ operator, ControlToken.ofText? token = none)
    (hvalue : ControlToken.ofText? value = none) :
    (⟨operator, value⟩ : FilterEntry).condition? style column .integer now =
      (integer? (Text.trim value)).map fun n => .equals column (.integer n) := by
  rw [condition?_of_values hoperator hvalue]
  simp only [FilterEntry.valuePredicate?, Predicate.ofIntegerText?, Option.map_map, Function.comp_def,
    condition_equals]

/-- The decimal text of a number is no control token. -/
theorem ofText?_toString (n : Int) : ControlToken.ofText? (toString n) = none := by
  apply ControlToken.ofText?_eq_none
  have hwrites := writesInteger_trim_iff.2 (holdsInteger_toString n)
  generalize (Text.trim (toString n)).toList = cs at hwrites
  obtain ⟨digits, hne, hdigits, ⟨rfl | rfl, -⟩ | ⟨rfl, -⟩⟩ := hwrites
  · intro hhead
    exact absurd (hdigits '_' (List.mem_of_mem_head? hhead)) (by decide)
  · simp
  · simp

/-- **The decimal text of a number tests for this number or, if 64 bits do not hold it, for nothing.** -/
theorem condition?_of_toString (hoperator : ∀ token ∈ operator, ControlToken.ofText? token = none) (n : Int) :
    (⟨operator, toString n⟩ : FilterEntry).condition? style column .integer now =
      (checked? n).map fun n => .equals column (.integer n) := by
  rw [condition?_of_integer style column now hoperator (ofText?_toString n), integer?_trim_toString]

end Entries

/-- **A filter on whole numbers takes the numbers of 64 bits and nothing else.**  Without control tokens there is a
condition exactly for the texts that hold such a number, and it tests for that number.  The operator does not
matter, every number of 64 bits is taken by its decimal text, and reading a number digit after digit, with a look
at every step, does not notice an overflow that is none and misses none. -/
theorem integer_filters_are_exact (style : PatternStyle) (column : String) (now : Instant)
    {operator : Option String} (hoperator : ∀ token ∈ operator, ControlToken.ofText? token = none) :
    (∀ value, ControlToken.ofText? value = none → ∀ c,
      (⟨operator, value⟩ : FilterEntry).condition? style column .integer now = some c ↔
        ∃ n, HoldsInteger value n ∧ minInteger ≤ n ∧ n ≤ maxInteger ∧ c = .equals column (.integer n)) ∧
    (∀ value, ControlToken.ofText? value = none → ∀ other : Option String,
      (∀ token ∈ other, ControlToken.ofText? token = none) →
      (⟨operator, value⟩ : FilterEntry).condition? style column .integer now =
        (⟨other, value⟩ : FilterEntry).condition? style column .integer now) ∧
    (∀ n, minInteger ≤ n → n ≤ maxInteger →
      (⟨operator, toString n⟩ : FilterEntry).condition? style column .integer now =
        some (.equals column (.integer n))) ∧
    (∀ cs, checkedInteger? cs = integerOfChars? cs) := by
  refine ⟨fun value hvalue c => ?_, fun value hvalue other hother => ?_, fun n hlow hhigh => ?_,
    checkedInteger?_eq⟩
  · rw [condition?_of_integer style column now hoperator hvalue, Option.map_eq_some_iff]
    simp only [integer?_trim_eq_some_iff, and_assoc, eq_comm (a := c)]
  · rw [condition?_of_integer style column now hoperator hvalue,
      condition?_of_integer style column now hother hvalue]
  · rw [condition?_of_toString style column now hoperator, checked?, if_pos ⟨hlow, hhigh⟩, Option.map_some]

/-- The least number of 64 bits between a no-break space and a blank is taken under an operator for dates; the
number behind the greatest one is not, nor is a sign alone. -/
theorem integer_filters_are_exact_at_the_ends :
    ControlToken.ofText? "today" = none ∧ ControlToken.ofText? "\u00a0-9223372036854775808 " = none ∧
    HoldsInteger "\u00a0-9223372036854775808 " minInteger ∧
    (⟨some "today", "\u00a0-9223372036854775808 "⟩ : FilterEntry).condition? ⟨.postgres, true⟩ "teams.wins"
      .integer ⟨0, 0⟩ = some ⟨"(teams.wins = ?)", [.integer (-9223372036854775808)]⟩ ∧
    (⟨none, "\u00a0-9223372036854775808 "⟩ : FilterEntry).condition? ⟨.postgres, true⟩ "teams.wins"
      .integer ⟨0, 0⟩ = some ⟨"(teams.wins = ?)", [.integer (-9223372036854775808)]⟩ ∧
    (⟨some "today", "9223372036854775807"⟩ : FilterEntry).condition? ⟨.postgres, true⟩ "teams.wins"
      .integer ⟨0, 0⟩ = some ⟨"(teams.wins = ?)", [.integer 9223372036854775807]⟩ ∧
    integerOfChars? "0009223372036854775808".toList = none ∧ integerOfChars? ['+'] = none := by
  have htoday : ∀ token ∈ some "today", ControlToken.ofText? token = none := by
    rintro token ⟨⟩
    decide
  have hvalue : ControlToken.ofText? "\u00a0-9223372036854775808 " = none := by decide
  have hholds : HoldsInteger "\u00a0-9223372036854775808 " minInteger :=
    ⟨['\u00a0'], "-9223372036854775808".toList, [' '], by decide +kernel,
      List.forall_mem_singleton.2 (by decide), List.forall_mem_singleton.2 (by decide),
      "9223372036854775808".toList, by decide +kernel, by decide +kernel,
      .inr ⟨by decide +kernel, by decide +kernel⟩⟩
  obtain ⟨hexact, hany, hdecimal, hchecked⟩ :=
    integer_filters_are_exact ⟨.postgres, true⟩ "teams.wins" ⟨0, 0⟩ htoday
  have hleast := (hexact _ hvalue (.equals "teams.wins" (.integer minInteger))).2
    ⟨minInteger, hholds, by decide, by decide, rfl⟩
  refine ⟨by decide, hvalue, hholds, hleast, ?_, hdecimal maxInteger (by decide) (by decide), ?_, ?_⟩
  · rw [← hany _ hvalue none (by simp)]
    exact hleast
  · rw [← hchecked]
    decide
  · rw [← hchecked]
    decide

end AdminQuery
