import AdminQuery.Inflection
import AdminQuery.Text.Identifier

/-!
# Names in snake case

The underscored form of a name is found by two passes over it, one that splits acronyms and one that splits
words, and camel case drops the underscores again.  Where every segment is a word, camel case loses nothing.

* `isWord`, `isSnakeCase`: words of small letters and digits, joined by underscores
* `endsSegment`, `insertUnderscores_twice`: **the two passes over a name are one**, whatever the name
* `camelCaseFrom_words`: camel case runs capitalized words together
* `insertUnderscores_words`: the one pass puts an underscore behind each word but the last
* `lowerCaseAfter_identifier`: the lower case of identifier characters
* `snakeCase_camelCase`: **a name in snake case is the underscored form of its camel case**
-/

namespace AdminQuery.Inflection

open AdminQuery.Text

/-! ### Characters of words -/

/-- A small letter or a digit. -/
def isWordRest (c : Char) : Bool :=
  c.isLower || c.isDigit

/-- A word: two small letters, then small letters and digits. -/
def isWord : List Char → Bool
  | c :: d :: rest => c.isLower && d.isLower && rest.all isWordRest
  | _ => false

/-- The segments between the underscores of a name are words. -/
def isSnakeCase (name : String) : Bool :=
  (name.toList.splitOn '_').all isWord

theorem isWordRest_of_isLower {c : Char} (h : c.isLower = true) : isWordRest c = true := by
  rw [isWordRest, h, Bool.true_or]

/-- What identifiers are made of, by the ranges of ASCII. -/
theorem isIdentifierRest_iff {c : Char} : isIdentifierRest c = true ↔
    ((c.isUpper = true ∨ c.isLower = true) ∨ c.isDigit = true) ∨ c = '_' := by
  show (((c.isUpper || c.isLower) || c.isDigit) || c == '_') = true ↔ _
  simp only [Bool.or_eq_true, beq_iff_eq]

/-- Identifiers are written in ASCII. -/
theorem toNat_lt_of_isIdentifierRest {c : Char} (h : isIdentifierRest c = true) : c.toNat < 128 := by
  rcases isIdentifierRest_iff.1 h with ((h | h) | h) | rfl
  · exact Nat.lt_of_le_of_lt (of_decide_eq_true h).2 (by decide)
  · exact Nat.lt_of_le_of_lt (of_decide_eq_true (Bool.and_eq_true_iff.1 h).2) (by decide)
  · exact Nat.lt_of_le_of_lt (of_decide_eq_true (Bool.and_eq_true_iff.1 h).2) (by decide)
  · decide

theorem isIdentifierRest_of_isWordRest {c : Char} (h : isWordRest c = true) :
    isIdentifierRest c = true := by
  rw [isWordRest, Bool.or_eq_true] at h
  rcases h with h | h
  · exact isIdentifierRest_iff.2 (.inl (.inl (.inr h)))
  · exact isIdentifierRest_iff.2 (.inl (.inr h))

/-- A statement about identifier characters needs to be checked for ASCII only. -/
theorem of_isIdentifierRest {p : Char → Prop} (h : ∀ n < 128, p (Char.ofNat n)) {c : Char}
    (hc : isIdentifierRest c = true) : p c := by
  rw [← Char.ofNat_toNat c]
  exact h c.toNat (toNat_lt_of_isIdentifierRest hc)

/-- Characters of words are in lower case, and no underscores. -/
theorem lower_of_isWordRest {c : Char} (h : isWordRest c = true) :
    c.isUpper = false ∧ c.toLower = c ∧ c ≠ '_' :=
  of_isIdentifierRest (p := fun c => isWordRest c = true → c.isUpper = false ∧ c.toLower = c ∧ c ≠ '_')
    (by decide +kernel) (isIdentifierRest_of_isWordRest h) h

/-- The capital of a small letter. -/
theorem upper_of_isLower {c : Char} (h : c.isLower = true) :
    upperCaseOf c = [c.toUpper] ∧ c.toUpper.isUpper = true ∧ c.toUpper.toLower = c ∧
      isIdentifierRest c.toUpper = true :=
  of_isIdentifierRest (p := fun c => c.isLower = true → upperCaseOf c = [c.toUpper] ∧
      c.toUpper.isUpper = true ∧ c.toUpper.toLower = c ∧ isIdentifierRest c.toUpper = true)
    (by decide +kernel) (isIdentifierRest_of_isWordRest (isWordRest_of_isLower h)) h

/-- Hyphens aside, the lower case of identifier characters is that of ASCII. -/
theorem lowerCaseAfter_identifier {cs : List Char} (h : ∀ c ∈ cs, isIdentifierRest c = true)
    (before : List Char) : lowerCaseAfter before (cs.map hyphenToUnderscore) = cs.map Char.toLower := by
  induction cs generalizing before with
  | nil => rfl
  | cons c rest ih =>
    obtain ⟨hhyphen, hsigma, hlower⟩ : c ≠ '-' ∧ c ≠ 'Σ' ∧ lowerCaseOf c = [c.toLower] :=
      of_isIdentifierRest (p := fun c => isIdentifierRest c = true →
          c ≠ '-' ∧ c ≠ 'Σ' ∧ lowerCaseOf c = [c.toLower])
        (by decide +kernel) (h c List.mem_cons_self) (h c List.mem_cons_self)
    rw [List.map_cons, hyphenToUnderscore, if_neg hhyphen, lowerCaseAfter, if_neg hsigma, hlower,
      ih fun d hd => h d (List.mem_cons_of_mem c hd)]
    rfl

/-! ### Words, capitalized -/

/-- A word begins with a small letter, and more characters of words follow. -/
theorem exists_of_isWord {word : List Char} (h : isWord word = true) :
    ∃ c d rest, word = c :: d :: rest ∧ c.isLower = true ∧ isWordRest d = true ∧
      ∀ e ∈ rest, isWordRest e = true := by
  match word with
  | c :: d :: rest =>
    simp only [isWord, Bool.and_eq_true, List.all_eq_true] at h
    exact ⟨c, d, rest, rfl, h.1.1, isWordRest_of_isLower h.1.2, h.2⟩

theorem capitalizeChars_of_isLower {c : Char} (h : c.isLower = true) (rest : List Char) :
    capitalizeChars (c :: rest) = c.toUpper :: rest := by
  rw [capitalizeChars, (upper_of_isLower h).1]
  rfl

/-- Small letters and digits stay as they are. -/
theorem map_toLower_wordRest {cs : List Char} (h : ∀ c ∈ cs, isWordRest c = true) :
    cs.map Char.toLower = cs := by
  rw [List.map_congr_left fun c hc => (lower_of_isWordRest (h c hc)).2.1, List.map_id']

/-- A capitalized word holds identifier characters, and is the word again in lower case. -/
theorem capitalizeChars_of_isWord {word : List Char} (h : isWord word = true) :
    (∀ c ∈ capitalizeChars word, isIdentifierRest c = true) ∧
      (capitalizeChars word).map Char.toLower = word := by
  obtain ⟨c, d, rest, rfl, hc, hd, hrest⟩ := exists_of_isWord h
  have htail : ∀ e ∈ d :: rest, isWordRest e = true := List.forall_mem_cons.2 ⟨hd, hrest⟩
  obtain ⟨-, -, hlower, hidentifier⟩ := upper_of_isLower hc
  rw [capitalizeChars_of_isLower hc]
  constructor
  · exact List.forall_mem_cons.2 ⟨hidentifier, fun e he => isIdentifierRest_of_isWordRest (htail e he)⟩
  · rw [List.map_cons, hlower, map_toLower_wordRest htail]

/-! ### One pass for two -/

/-- A segment ends where an acronym or a word does. -/
def endsSegment (c : Char) (rest : List Char) : Bool :=
  endsAcronym c rest || endsWord c rest

/-- Underscores are put behind characters, never in front of the first. -/
theorem head?_insertUnderscores (boundary : Char → List Char → Bool) (cs : List Char) :
    (insertUnderscores boundary cs).head? = cs.head? := by
  cases cs with
  | nil => rfl
  | cons c rest =>
    rw [insertUnderscores]
    split <;> rfl

/-- Where a word ends is told by the next character. -/
theorem endsWord_eq (c : Char) (rest : List Char) :
    endsWord c rest = ((c.isLower || isDecimalDigit c) && rest.head?.any Char.isUpper) := by
  cases rest with
  | nil => simp [endsWord]
  | cons u _ => rfl

/-- **The two passes over a name are one.**  Behind an acronym the second pass meets the underscore of the
first, which is no capital; elsewhere the first pass left the next character in place. -/
theorem insertUnderscores_twice (cs : List Char) :
    insertUnderscores endsWord (insertUnderscores endsAcronym cs) = insertUnderscores endsSegment cs := by
  induction cs with
  | nil => rfl
  | cons c rest ih =>
    cases hacronym : endsAcronym c rest with
    | true =>
      have hsegment : endsSegment c rest = true := by rw [endsSegment, hacronym, Bool.true_or]
      have hmark : endsWord '_' (insertUnderscores endsAcronym rest) = false := by
        rw [endsWord_eq, show ('_'.isLower || isDecimalDigit '_') = false by decide, Bool.false_and]
      have hbehind : endsWord c ('_' :: insertUnderscores endsAcronym rest) = false := by
        rw [endsWord_eq, List.head?_cons, Option.any_some, show '_'.isUpper = false by decide,
          Bool.and_false]
      rw [insertUnderscores, if_pos hacronym, insertUnderscores, hbehind, insertUnderscores, hmark, ih,
        insertUnderscores, if_pos hsegment]
      rfl
    | false =>
      have hsegment : endsSegment c rest = endsWord c rest := by
        rw [endsSegment, hacronym, Bool.false_or]
      have hword : endsWord c (insertUnderscores endsAcronym rest) = endsWord c rest := by
        rw [endsWord_eq, endsWord_eq, head?_insertUnderscores]
      rw [insertUnderscores, hacronym, if_neg Bool.false_ne_true, insertUnderscores, hword, ih,
        insertUnderscores, hsegment]

/-! ### Words in a row -/

/-- Behind a character of a word, a segment ends where a capital follows. -/
theorem endsSegment_of_isWordRest {c : Char} (h : isWordRest c = true) (rest : List Char) :
    endsSegment c rest = rest.head?.any Char.isUpper := by
  have hc : (c.isLower || isDecimalDigit c) = true := by
    rw [isWordRest, Bool.or_eq_true] at h
    rcases h with h | h <;> simp [isDecimalDigit, h]
  have hword : endsWord c rest = rest.head?.any Char.isUpper := by
    rw [endsWord_eq, hc, Bool.true_and]
  rw [endsSegment, hword]
  -- An acronym ends in front of a capital as well.
  match rest with
  | [] => rfl
  | [u] => rfl
  | u :: l :: more =>
    show ((_ && u.isUpper && l.isLower) || u.isUpper) = u.isUpper
    cases u.isUpper <;> simp

/-- Where no capital follows, no segment ends. -/
theorem endsSegment_of_not_isUpper {d : Char} (h : d.isUpper = false) (c : Char) (rest : List Char) :
    endsSegment c (d :: rest) = false := by
  rw [endsSegment, endsWord_eq, List.head?_cons, Option.any_some, h, Bool.and_false, Bool.or_false]
  cases rest with
  | nil => rfl
  | cons l more => simp [endsAcronym, h]

/-- A row of characters of words gets an underscore behind it if a capital follows, and none inside. -/
theorem insertUnderscores_wordRest {c : Char} {cs : List Char} (hc : isWordRest c = true)
    (hcs : ∀ d ∈ cs, isWordRest d = true) (rest : List Char) :
    insertUnderscores endsSegment (c :: cs ++ rest) =
      c :: cs ++ ((if rest.head?.any Char.isUpper then ['_'] else []) ++
        insertUnderscores endsSegment rest) := by
  induction cs generalizing c with
  | nil =>
    rw [List.singleton_append, insertUnderscores, endsSegment_of_isWordRest hc]
    split <;> rfl
  | cons d cs ih =>
    obtain ⟨hd, hcs⟩ := List.forall_mem_cons.1 hcs
    have hinside : endsSegment c (d :: cs ++ rest) = false :=
      endsSegment_of_not_isUpper (lower_of_isWordRest hd).1 c (cs ++ rest)
    rw [List.cons_append, insertUnderscores, hinside, ih hd hcs]
    rfl

/-- A capitalized word gets an underscore behind it if a capital follows, and none inside. -/
theorem insertUnderscores_capitalizeChars {word : List Char} (h : isWord word = true)
    (rest : List Char) : insertUnderscores endsSegment (capitalizeChars word ++ rest) =
      capitalizeChars word ++ ((if rest.head?.any Char.isUpper then ['_'] else []) ++
        insertUnderscores endsSegment rest) := by
  obtain ⟨c, d, cs, rfl, hc, hd, hcs⟩ := exists_of_isWord h
  have hinside : endsSegment c.toUpper (d :: cs ++ rest) = false :=
    endsSegment_of_not_isUpper (lower_of_isWordRest hd).1 c.toUpper (cs ++ rest)
  rw [capitalizeChars_of_isLower hc, List.cons_append, insertUnderscores, hinside,
    insertUnderscores_wordRest hd hcs]
  rfl

/-- **Every capitalized word but the last gets an underscore behind it.** -/
theorem insertUnderscores_words {words : List (List Char)} (h : ∀ word ∈ words, isWord word = true) :
    insertUnderscores endsSegment (words.flatMap capitalizeChars) =
      ['_'].intercalate (words.map capitalizeChars) := by
  induction words with
  | nil => rfl
  | cons word words ih =>
    obtain ⟨hword, hwords⟩ := List.forall_mem_cons.1 h
    rw [List.flatMap_cons, insertUnderscores_capitalizeChars hword, ih hwords]
    cases words with
    | nil => simp
    | cons next words =>
      obtain ⟨c, d, cs, rfl, hc, -, -⟩ := exists_of_isWord (hwords next List.mem_cons_self)
      have hcapital : (((c :: d :: cs) :: words).flatMap capitalizeChars).head?.any Char.isUpper =
          true := by
        rw [List.flatMap_cons, capitalizeChars_of_isLower hc]
        exact (upper_of_isLower hc).2.1
      simp only [if_pos hcapital, List.map_cons, List.intercalate_cons_cons, List.append_assoc]

/-- Inside a segment, camel case keeps characters of words. -/
theorem camelCaseFrom_wordRest {cs : List Char} (h : ∀ c ∈ cs, isWordRest c = true)
    (rest : List Char) : camelCaseFrom false (cs ++ rest) = cs ++ camelCaseFrom false rest := by
  induction cs with
  | nil => rfl
  | cons c cs ih =>
    obtain ⟨hc, hcs⟩ := List.forall_mem_cons.1 h
    rw [List.cons_append, camelCaseFrom, if_neg (lower_of_isWordRest hc).2.2, ih hcs]
    rfl

/-- Camel case starts a word with a capital. -/
theorem camelCaseFrom_word {word : List Char} (h : isWord word = true) (rest : List Char) :
    camelCaseFrom true (word ++ rest) = capitalizeChars word ++ camelCaseFrom false rest := by
  obtain ⟨c, d, cs, rfl, hc, hd, hcs⟩ := exists_of_isWord h
  have hmark : c ≠ '_' := (lower_of_isWordRest (isWordRest_of_isLower hc)).2.2
  rw [List.cons_append, camelCaseFrom, if_neg hmark, if_pos rfl,
    camelCaseFrom_wordRest (List.forall_mem_cons.2 ⟨hd, hcs⟩), capitalizeChars, List.append_assoc]

/-- **Camel case runs the capitalized words together.** -/
theorem camelCaseFrom_words {words : List (List Char)} (h : ∀ word ∈ words, isWord word = true) :
    camelCaseFrom true (['_'].intercalate words) = words.flatMap capitalizeChars := by
  induction words with
  | nil => rfl
  | cons word words ih =>
    obtain ⟨hword, hwords⟩ := List.forall_mem_cons.1 h
    cases words with
    | nil =>
      rw [List.intercalate_singleton, List.flatMap_singleton, ← List.append_nil word,
        camelCaseFrom_word hword, camelCaseFrom, List.append_nil, List.append_nil]
    | cons next words =>
      rw [List.intercalate_cons_cons, List.append_assoc, camelCaseFrom_word hword,
        List.singleton_append, camelCaseFrom, if_pos rfl, ih hwords]
      rfl

/-- The words that are joined by underscores come back in lower case. -/
theorem map_toLower_words {words : List (List Char)} (h : ∀ word ∈ words, isWord word = true) :
    (∀ c ∈ ['_'].intercalate (words.map capitalizeChars), isIdentifierRest c = true) ∧
      (['_'].intercalate (words.map capitalizeChars)).map Char.toLower = ['_'].intercalate words := by
  induction words with
  | nil => exact ⟨nofun, rfl⟩
  | cons word words ih =>
    obtain ⟨hword, hwords⟩ := List.forall_mem_cons.1 h
    obtain ⟨hidentifier, hlower⟩ := capitalizeChars_of_isWord hword
    obtain ⟨ihidentifier, ihlower⟩ := ih hwords
    cases words with
    | nil => simpa using ⟨hidentifier, hlower⟩
    | cons next words =>
      simp only [List.map_cons, List.intercalate_cons_cons, List.map_append, List.forall_mem_append]
      exact ⟨⟨⟨hidentifier, List.forall_mem_singleton.2 rfl⟩, ihidentifier⟩,
        by rw [hlower, ← ihlower]; rfl⟩

/-! ### Names -/

/-- **A name in snake case is the underscored form of its camel case.** -/
theorem snakeCase_camelCase {name : String} (h : isSnakeCase name = true) :
    snakeCase (camelCase name) = name := by
  rw [isSnakeCase, List.all_eq_true] at h
  have hname : ['_'].intercalate (name.toList.splitOn '_') = name.toList := List.intercalate_splitOn '_'
  obtain ⟨hidentifier, hlower⟩ := map_toLower_words h
  rw [snakeCase, camelCase, String.toList_ofList, snakeCaseChars, insertUnderscores_twice]
  calc String.ofList (lowerCaseAfter [] ((insertUnderscores endsSegment
        (camelCaseFrom true name.toList)).map hyphenToUnderscore))
    _ = String.ofList (lowerCaseAfter []
          ((['_'].intercalate ((name.toList.splitOn '_').map capitalizeChars)).map
            hyphenToUnderscore)) := by
        rw [← insertUnderscores_words h, ← camelCaseFrom_words h, hname]
    _ = String.ofList (['_'].intercalate (name.toList.splitOn '_')) := by
        rw [lowerCaseAfter_identifier hidentifier, hlower]
    _ = name := by rw [hname, String.ofList_toList]

end AdminQuery.Inflection
