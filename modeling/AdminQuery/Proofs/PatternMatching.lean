import AdminQuery.Condition.Pattern
import Mathlib.Data.List.Infix

/-!
# Escaped patterns match just their values

A store reads a pattern character by character: a backslash takes the meaning from the character behind
it, `%` stands for any text and `_` for any character.

* `PatternPart.ofText?`: the parts of a pattern; one that ends in the middle of an escape has none
* `PatternPart.matchesAll`: whether a text matches parts, by trying every rest of it behind a `%`
* `MatchPosition.Holds`: where in a text a value stands
* `readParts_escapePatternChars`: **an escaped text is read back as its own characters**
* `matchesAll_parts_iff`: the wildcards of a position ask for the value at that position
* `escaped_patterns_match_their_values`: **patterns of escaped values are well formed and match the
  texts that hold the value where it must stand**
-/

namespace AdminQuery

/-! ### Reading patterns -/

/-- What one part of a pattern stands for. -/
inductive PatternPart where
  | anyText
  | anyCharacter
  | character (c : Char)
  deriving DecidableEq, Repr

namespace PatternPart

/-- The part that a character is, when no backslash stands in front of it. -/
def ofChar (c : Char) : PatternPart :=
  if c = '%' then anyText else if c = '_' then anyCharacter else character c

/-- The parts of a pattern; `escaped` says that a backslash stands in front of it. -/
def readParts (escaped : Bool) : List Char → Option (List PatternPart)
  | [] => if escaped then none else some []
  | c :: rest =>
    if escaped then (readParts false rest).map fun parts => character c :: parts
    else if c = '\\' then readParts true rest
    else (readParts false rest).map fun parts => ofChar c :: parts

/-- The parts of a pattern.  A pattern that ends in the middle of an escape is not well formed. -/
def ofText? (pattern : String) : Option (List PatternPart) :=
  readParts false pattern.toList

/-- A backslash takes the meaning from the character behind it. -/
theorem readParts_backslash (c : Char) (rest : List Char) :
    readParts false ('\\' :: c :: rest) =
      (readParts false rest).map fun parts => character c :: parts := rfl

theorem readParts_of_ne {c : Char} (h : c ≠ '\\') (rest : List Char) :
    readParts false (c :: rest) = (readParts false rest).map fun parts => ofChar c :: parts := by
  rw [readParts, if_neg Bool.false_ne_true, if_neg h]

/-- The text matches the parts from its first character to its last. -/
def matchesAll : List PatternPart → List Char → Bool
  | [], text => text.isEmpty
  | anyText :: parts, text => text.tails.any fun rest => matchesAll parts rest
  | anyCharacter :: parts, text =>
    match text with
    | [] => false
    | _ :: rest => matchesAll parts rest
  | character c :: parts, text =>
    match text with
    | [] => false
    | d :: rest => c == d && matchesAll parts rest

/-- Any text may stand for a `%`. -/
theorem matchesAll_anyText {parts : List PatternPart} {text : List Char} :
    matchesAll (anyText :: parts) text = true ↔
      ∃ skipped rest, text = skipped ++ rest ∧ matchesAll parts rest = true := by
  rw [matchesAll, List.any_eq_true]
  constructor
  · rintro ⟨rest, hrest, hmatch⟩
    obtain ⟨skipped, rfl⟩ := (List.mem_tails rest text).1 hrest
    exact ⟨skipped, rest, rfl, hmatch⟩
  · rintro ⟨skipped, rest, rfl, hmatch⟩
    exact ⟨rest, (List.mem_tails rest _).2 (List.suffix_append skipped rest), hmatch⟩

theorem matchesAll_anyText_self (text : List Char) : matchesAll [anyText] text = true :=
  matchesAll_anyText.2 ⟨text, [], by simp, rfl⟩

/-- Characters only match themselves. -/
theorem matchesAll_characters_append {cs : List Char} {parts : List PatternPart} :
    ∀ {text : List Char}, matchesAll (cs.map character ++ parts) text = true ↔
      ∃ rest, text = cs ++ rest ∧ matchesAll parts rest = true := by
  induction cs with
  | nil =>
    intro text
    simp
  | cons c cs ih =>
    intro text
    cases text with
    | nil => simp [matchesAll]
    | cons d text =>
      rw [List.map_cons, List.cons_append, matchesAll, Bool.and_eq_true, beq_iff_eq, ih]
      constructor
      · rintro ⟨rfl, rest, rfl, hmatch⟩
        exact ⟨rest, rfl, hmatch⟩
      · rintro ⟨rest, htext, hmatch⟩
        rw [List.cons_append, List.cons.injEq] at htext
        exact ⟨htext.1.symm, rest, htext.2, hmatch⟩

theorem matchesAll_characters {cs text : List Char} :
    matchesAll (cs.map character) text = true ↔ text = cs := by
  have hcharacters : matchesAll (cs.map character ++ []) text = true ↔
      ∃ rest, text = cs ++ rest ∧ matchesAll [] rest = true := matchesAll_characters_append
  rw [List.append_nil] at hcharacters
  simp [hcharacters, matchesAll]

end PatternPart

/-! ### Escaping -/

open PatternPart

/-- A text with `replacement` in place of every `c`. -/
def replaceChar (c : Char) (replacement cs : List Char) : List Char :=
  cs.flatMap fun d => if d = c then replacement else [d]

/-- **Escaping replaces backslashes first, so that those it adds for the wildcards stay single.** -/
theorem escapePatternChars_eq_replaceChar (cs : List Char) :
    escapePatternChars cs =
      replaceChar '_' ['\\', '_'] (replaceChar '%' ['\\', '%'] (replaceChar '\\' ['\\', '\\'] cs)) := by
  induction cs with
  | nil => rfl
  | cons c cs ih =>
    simp only [escapePatternChars, replaceChar, List.flatMap_cons, List.flatMap_append] at ih ⊢
    rw [ih, List.append_left_inj]
    by_cases hbackslash : c = '\\'
    · subst hbackslash
      rfl
    · by_cases hpercent : c = '%'
      · subst hpercent
        rfl
      · by_cases hunderscore : c = '_'
        · subst hunderscore
          rfl
        · simp [isPatternSpecial, hbackslash, hpercent, hunderscore]

/-- **An escaped text is read back as its own characters**, whatever stands behind it. -/
theorem readParts_escapePatternChars (cs rest : List Char) :
    readParts false (escapePatternChars cs ++ rest) =
      (readParts false rest).map fun parts => cs.map character ++ parts := by
  induction cs with
  | nil => simp [escapePatternChars]
  | cons c cs ih =>
    have hcons : escapePatternChars (c :: cs) ++ rest =
        (if isPatternSpecial c then ['\\', c] else [c]) ++ (escapePatternChars cs ++ rest) := by
      rw [← List.append_assoc]
      rfl
    rw [hcons]
    by_cases hspecial : isPatternSpecial c = true
    · rw [if_pos hspecial, List.cons_append, List.singleton_append, readParts_backslash, ih,
        Option.map_map]
      rfl
    · rw [if_neg hspecial]
      simp only [isPatternSpecial, Bool.or_eq_true, beq_iff_eq, not_or] at hspecial
      obtain ⟨⟨hbackslash, hpercent⟩, hunderscore⟩ := hspecial
      have hplain : ofChar c = character c := by
        rw [ofChar, if_neg hpercent, if_neg hunderscore]
      rw [List.singleton_append, readParts_of_ne hbackslash, ih, Option.map_map, hplain]
      rfl

/-! ### Positions -/

namespace MatchPosition

/-- The value stands in the text where the position says. -/
def Holds (position : MatchPosition) (value text : String) : Prop :=
  match position with
  | exact => text = value
  | startsWith => value.toList <+: text.toList
  | endsWith => value.toList <:+ text.toList
  | contains => value.toList <:+: text.toList

/-- The parts that ask for characters at a position. -/
def parts (position : MatchPosition) (cs : List Char) : List PatternPart :=
  match position with
  | exact => cs.map character
  | startsWith => cs.map character ++ [anyText]
  | endsWith => anyText :: cs.map character
  | contains => anyText :: (cs.map character ++ [anyText])

/-- **The pattern of an escaped value is well formed**: no wildcard of the position is taken into an
escape, also when the value ends with a backslash. -/
theorem ofText?_pattern_escapePattern (position : MatchPosition) (value : String) :
    PatternPart.ofText? (position.pattern (escapePattern value)) =
      some (position.parts value.toList) := by
  have hnothing : readParts false [] = some [] := rfl
  have hpercent : readParts false ['%'] = some [anyText] := rfl
  have hskip (cs : List Char) :
      readParts false ('%' :: cs) = (readParts false cs).map fun parts => anyText :: parts := rfl
  have hvalue (rest : List Char) := readParts_escapePatternChars value.toList rest
  have hexact := hvalue []
  rw [List.append_nil, hnothing] at hexact
  have hstart := hvalue ['%']
  rw [hpercent] at hstart
  cases position with
  | exact => simp [PatternPart.ofText?, pattern, parts, escapePattern, hexact]
  | startsWith => simp [PatternPart.ofText?, pattern, parts, escapePattern, hstart]
  | endsWith => simp [PatternPart.ofText?, pattern, parts, escapePattern, hskip, hexact]
  | contains => simp [PatternPart.ofText?, pattern, parts, escapePattern, hskip, hstart]

/-- **The wildcards of a position ask for the value at that position.** -/
theorem matchesAll_parts_iff (position : MatchPosition) (value text : String) :
    matchesAll (position.parts value.toList) text.toList = true ↔ position.Holds value text := by
  cases position with
  | exact => rw [parts, matchesAll_characters, Holds, String.toList_inj]
  | startsWith =>
    rw [parts, matchesAll_characters_append, Holds]
    constructor
    · rintro ⟨rest, htext, -⟩
      exact ⟨rest, htext.symm⟩
    · rintro ⟨rest, htext⟩
      exact ⟨rest, htext.symm, matchesAll_anyText_self rest⟩
  | endsWith =>
    rw [parts, matchesAll_anyText, Holds]
    constructor
    · rintro ⟨skipped, rest, htext, hmatch⟩
      rw [matchesAll_characters] at hmatch
      exact ⟨skipped, by rw [htext, hmatch]⟩
    · rintro ⟨skipped, htext⟩
      exact ⟨skipped, value.toList, htext.symm, matchesAll_characters.2 rfl⟩
  | contains =>
    rw [parts, matchesAll_anyText, Holds]
    constructor
    · rintro ⟨skipped, rest, htext, hmatch⟩
      obtain ⟨behind, rfl, -⟩ := matchesAll_characters_append.1 hmatch
      exact ⟨skipped, behind, by rw [htext, List.append_assoc]⟩
    · rintro ⟨skipped, behind, htext⟩
      refine ⟨skipped, value.toList ++ behind, by rw [← htext, List.append_assoc], ?_⟩
      exact matchesAll_characters_append.2 ⟨behind, rfl, matchesAll_anyText_self behind⟩

end MatchPosition

/-- Values with the same escaped form match the same texts, so they are the same. -/
theorem escapePattern_injective : Function.Injective escapePattern := by
  intro value other heq
  have hvalue := MatchPosition.ofText?_pattern_escapePattern .exact value
  have hother := MatchPosition.ofText?_pattern_escapePattern .exact other
  rw [heq, hother, Option.some.injEq] at hvalue
  have hself := (MatchPosition.matchesAll_parts_iff .exact value value).2 rfl
  rw [← hvalue] at hself
  exact (MatchPosition.matchesAll_parts_iff .exact other value).1 hself

/-- **With escaping on, the pattern that a value binds is well formed and matches just the texts that
hold the value where it must stand**, so different values have different escaped forms.  Escaping is
three replacements, backslashes first. -/
theorem escaped_patterns_match_their_values :
    (∀ value : String, (escapePattern value).toList =
      replaceChar '_' ['\\', '_']
        (replaceChar '%' ['\\', '%'] (replaceChar '\\' ['\\', '\\'] value.toList))) ∧
    (∀ (style : PatternStyle) (position : MatchPosition) (value column : String),
      style.escapeWildcards = true → Text.isAllBlank value = false →
      ∃ predicate parts, style.predicate? position value = some predicate ∧
        (Atom.condition ⟨column, predicate⟩).bindings =
          [.text (position.pattern (escapePattern value))] ∧
        PatternPart.ofText? (position.pattern (escapePattern value)) = some parts ∧
        ∀ text : String, matchesAll parts text.toList = true ↔ position.Holds value text) ∧
    Function.Injective escapePattern := by
  refine ⟨fun value => ?_, fun style position value column hescape hblank => ?_,
    escapePattern_injective⟩
  · rw [escapePattern, String.toList_ofList, escapePatternChars_eq_replaceChar]
  · have hpredicate : style.predicate? position value =
        some (.matchesPattern style.dialect true (position.pattern (escapePattern value))) := by
      rw [PatternStyle.predicate?, if_neg (by simp [hblank]), PatternStyle.pattern, hescape,
        if_pos rfl]
    exact ⟨_, position.parts value.toList, hpredicate, rfl,
      position.ofText?_pattern_escapePattern value, position.matchesAll_parts_iff value⟩

/-- A value that holds both wildcards and ends with a backslash, anywhere in a text. -/
theorem escaped_patterns_match_their_values_backslash :
    Text.isAllBlank "5%_\\" = false ∧
    ∃ predicate parts, (⟨.sqlite, true⟩ : PatternStyle).predicate? .contains "5%_\\" = some predicate ∧
      (Atom.condition ⟨"teams.name", predicate⟩).bindings = [.text "%5\\%\\_\\\\%"] ∧
      PatternPart.ofText? "%5\\%\\_\\\\%" = some parts ∧
      ∀ text : String, matchesAll parts text.toList = true ↔
        MatchPosition.contains.Holds "5%_\\" text := by
  have hblank : Text.isAllBlank "5%_\\" = false := by decide
  have hpattern : MatchPosition.contains.pattern (escapePattern "5%_\\") = "%5\\%\\_\\\\%" := by
    decide
  have hvalue := escaped_patterns_match_their_values.2.1 ⟨.sqlite, true⟩ .contains "5%_\\"
    "teams.name" rfl hblank
  rw [hpattern] at hvalue
  exact ⟨hblank, hvalue⟩

end AdminQuery
