import AdminQuery.Proofs.SnakeCase

/-!
# Passes that divide names

The underscored form of a name comes from two passes over it.  Each finds the matches of a pattern of two groups,
from left to right and without overlap, and puts an underscore between the groups: the first behind acronyms, the
second behind words.  The rule that `insertUnderscores` goes by looks at no more than three characters at a time.

* `Marks`: what a pass leaves behind, match by match
* `AcronymMatch`, `WordMatch`: the matches of the two passes
* `Divides`: the rule puts an underscore between the groups of each match, and nowhere else
* `Divides.marks_iff`: **a pass has one outcome, whichever way its matches are split**, and it is that of the rule
* `divides_acronyms`, `divides_words`: so it is with the two passes
* `marksSegments_iff`: **both passes together put an underscore wherever a segment ends**
-/

namespace AdminQuery.Inflection

open AdminQuery.Text

/-! ### Matches -/

/-- What a pass leaves behind.  It goes from left to right; where a match of the pattern begins it puts an underscore
between the two groups of the match and goes on behind it, and where none begins it keeps the character. -/
inductive Marks (pattern : List Char → List Char → Prop) : List Char → List Char → Prop where
  | nil : Marks pattern [] []
  | hit {front back rest marked : List Char} :
    pattern front back → Marks pattern rest marked →
    Marks pattern (front ++ (back ++ rest)) (front ++ '_' :: (back ++ marked))
  | skip {c : Char} {rest marked : List Char} :
    (∀ front back after, c :: rest = front ++ (back ++ after) → ¬pattern front back) →
    Marks pattern rest marked → Marks pattern (c :: rest) (c :: marked)

/-- Capitals and digits, then a capital that starts a word. -/
def AcronymMatch (front back : List Char) : Prop :=
  front ≠ [] ∧ (∀ c ∈ front, (c.isUpper || isDecimalDigit c) = true) ∧
    ∃ u l, back = [u, l] ∧ u.isUpper = true ∧ l.isLower = true

/-- A small letter or digit, then a capital. -/
def WordMatch (front back : List Char) : Prop :=
  ∃ c u, front = [c] ∧ back = [u] ∧ (c.isLower || isDecimalDigit c) = true ∧ u.isUpper = true

section Passes

variable {boundary : Char → List Char → Bool} {pattern : List Char → List Char → Prop}

/-- The boundary lies between the groups of each match, and nowhere else. -/
structure Divides (boundary : Char → List Char → Bool) (pattern : List Char → List Char → Prop) : Prop where
  ne_nil {front back : List Char} : pattern front back → front ≠ []
  hit {front back : List Char} : pattern front back → ∀ rest : List Char,
    insertUnderscores boundary (front ++ (back ++ rest)) =
      front ++ '_' :: (back ++ insertUnderscores boundary rest)
  skip {c : Char} {rest : List Char} : boundary c rest = true →
    ∃ front back after, c :: rest = front ++ (back ++ after) ∧ pattern front back

/-- Every text can be passed over, since a match takes at least one character. -/
theorem exists_marks (hne : ∀ {front back : List Char}, pattern front back → front ≠ []) (cs : List Char) :
    ∃ marked, Marks pattern cs marked := by
  induction hlength : cs.length using Nat.strongRecOn generalizing cs with
  | ind n ih =>
    by_cases hmatch : ∃ front back rest, cs = front ++ (back ++ rest) ∧ pattern front back
    · obtain ⟨front, back, rest, rfl, hpattern⟩ := hmatch
      have hfront := List.length_pos_iff.2 (hne hpattern)
      rw [List.length_append, List.length_append] at hlength
      obtain ⟨marked, hmarked⟩ := ih rest.length (by omega) rest rfl
      exact ⟨front ++ '_' :: (back ++ marked), .hit hpattern hmarked⟩
    · cases cs with
      | nil => exact ⟨[], .nil⟩
      | cons c rest =>
        rw [List.length_cons] at hlength
        obtain ⟨marked, hmarked⟩ := ih rest.length (by omega) rest rfl
        exact ⟨c :: marked, .skip (fun front back after heq hpattern =>
          hmatch ⟨front, back, after, heq, hpattern⟩) hmarked⟩

/-- **A pass has one outcome, whichever way its matches are split.** -/
theorem Divides.marks_iff (h : Divides boundary pattern) {cs marked : List Char} :
    Marks pattern cs marked ↔ marked = insertUnderscores boundary cs := by
  have hall : ∀ {cs marked : List Char}, Marks pattern cs marked →
      marked = insertUnderscores boundary cs := by
    intro cs marked hmarks
    induction hmarks with
    | nil => rfl
    | hit hpattern _ ih => rw [h.hit hpattern, ih]
    | @skip c rest marked hnone _ ih =>
      have hinside : ¬boundary c rest = true := by
        intro hboundary
        obtain ⟨front, back, after, heq, hpattern⟩ := h.skip hboundary
        exact hnone front back after heq hpattern
      rw [insertUnderscores, if_neg hinside, ih]
  refine ⟨hall, ?_⟩
  rintro rfl
  obtain ⟨marked, hmarked⟩ := exists_marks h.ne_nil cs
  rwa [← hall hmarked]

end Passes

/-! ### The two passes -/

/-- Capitals and small letters are no decimal digits of any script. -/
theorem isDecimalDigit_of_letter {c : Char} (h : c.isUpper = true ∨ c.isLower = true) :
    isDecimalDigit c = false :=
  of_isIdentifierRest (p := fun c => c.isUpper = true ∨ c.isLower = true → isDecimalDigit c = false)
    (by decide +kernel) (isIdentifierRest_iff.2 (.inl (.inl h))) h

theorem isLower_of_isUpper {c : Char} (h : c.isUpper = true) : c.isLower = false :=
  of_isIdentifierRest (p := fun c => c.isUpper = true → c.isLower = false) (by decide +kernel)
    (isIdentifierRest_iff.2 (.inl (.inl (.inl h)))) h

theorem isLower_of_capitalOrDigit {c : Char} (h : (c.isUpper || isDecimalDigit c) = true) :
    c.isLower = false := by
  rcases Bool.or_eq_true_iff.1 h with hupper | hdigit
  · exact isLower_of_isUpper hupper
  · cases hlower : c.isLower with
    | false => rfl
    | true =>
      rw [isDecimalDigit_of_letter (.inr hlower)] at hdigit
      cases hdigit

/-- An acronym ends in a capital or digit, in front of a capital and a small letter. -/
theorem exists_of_endsAcronym {c : Char} {rest : List Char} (h : endsAcronym c rest = true) :
    ∃ u l after, rest = u :: l :: after ∧ (c.isUpper || isDecimalDigit c) = true ∧
      u.isUpper = true ∧ l.isLower = true := by
  cases rest with
  | nil => cases h
  | cons u rest =>
    cases rest with
    | nil => cases h
    | cons l after =>
      rw [endsAcronym, Bool.and_eq_true, Bool.and_eq_true] at h
      exact ⟨u, l, after, rfl, h.1.1, h.1.2, h.2⟩

theorem endsAcronym_of_not_isLower {x : Char} (h : x.isLower = false) (c d : Char) (rest : List Char) :
    endsAcronym c (d :: x :: rest) = false := by
  rw [endsAcronym, h, Bool.and_false]

/-- Around the small letter that starts a word, no acronym ends. -/
theorem insertUnderscores_wordStart {l : Char} (hl : l.isLower = true) (u : Char) (rest : List Char) :
    insertUnderscores endsAcronym (u :: l :: rest) = u :: l :: insertUnderscores endsAcronym rest := by
  have hbefore : ¬endsAcronym u (l :: rest) = true := by
    intro hends
    obtain ⟨d, _, after, heq, -, hd, -⟩ := exists_of_endsAcronym hends
    rw [← (List.cons.inj heq).1, (lower_of_isWordRest (isWordRest_of_isLower hl)).1] at hd
    cases hd
  have hbehind : ¬endsAcronym l rest = true := by
    intro hends
    obtain ⟨_, _, _, _, hclass, -⟩ := exists_of_endsAcronym hends
    rw [isLower_of_capitalOrDigit hclass] at hl
    cases hl
  rw [insertUnderscores, if_neg hbefore, insertUnderscores, if_neg hbehind]

/-- A row of capitals and digits in front of a word is marked at its end: the first group of the match can end
nowhere else, so it does not matter that it takes as much as it can. -/
theorem insertUnderscores_acronym {u l : Char} (hu : u.isUpper = true) (hl : l.isLower = true)
    {c : Char} {cs : List Char} (h : ∀ d ∈ c :: cs, (d.isUpper || isDecimalDigit d) = true)
    (rest : List Char) : insertUnderscores endsAcronym (c :: cs ++ u :: l :: rest) =
      c :: cs ++ '_' :: u :: l :: insertUnderscores endsAcronym rest := by
  induction cs generalizing c with
  | nil =>
    have hends : endsAcronym c (u :: l :: rest) = true := by
      rw [endsAcronym, h c List.mem_cons_self, hu, hl]
      rfl
    rw [List.singleton_append, insertUnderscores, if_pos hends, insertUnderscores_wordStart hl]
    rfl
  | cons d cs ih =>
    obtain ⟨-, htail⟩ := List.forall_mem_cons.1 h
    have hinside : endsAcronym c (d :: (cs ++ u :: l :: rest)) = false := by
      cases cs with
      | nil => exact endsAcronym_of_not_isLower (isLower_of_isUpper hu) c d (l :: rest)
      | cons x cs =>
        exact endsAcronym_of_not_isLower (isLower_of_capitalOrDigit (htail x (by simp))) c d _
    have hstep : insertUnderscores endsAcronym (c :: (d :: cs ++ u :: l :: rest)) =
        c :: insertUnderscores endsAcronym (d :: cs ++ u :: l :: rest) := by
      rw [insertUnderscores, List.cons_append, if_neg (ne_true_of_eq_false hinside)]
    exact hstep.trans (congrArg (c :: ·) (ih htail))

theorem divides_acronyms : Divides endsAcronym AcronymMatch where
  ne_nil h := h.1
  hit := by
    rintro front back ⟨hne, hclass, u, l, rfl, hu, hl⟩ rest
    obtain ⟨c, cs, rfl⟩ := List.exists_cons_of_ne_nil hne
    exact insertUnderscores_acronym hu hl hclass rest
  skip := by
    intro c rest h
    obtain ⟨u, l, after, rfl, hc, hu, hl⟩ := exists_of_endsAcronym h
    exact ⟨[c], [u, l], after, rfl, List.cons_ne_nil c [], List.forall_mem_singleton.2 hc, u, l, rfl, hu, hl⟩

theorem divides_words : Divides endsWord WordMatch where
  ne_nil := by
    rintro _ _ ⟨c, _, rfl, -⟩
    exact List.cons_ne_nil c []
  hit := by
    rintro _ _ ⟨c, u, rfl, rfl, hc, hu⟩ rest
    have hends : endsWord c (u :: rest) = true := by rw [endsWord, hc, hu, Bool.and_self]
    have hcapital : endsWord u rest = false := by
      rw [endsWord_eq, isLower_of_isUpper hu, isDecimalDigit_of_letter (.inl hu), Bool.or_self, Bool.false_and]
    show insertUnderscores endsWord (c :: u :: rest) = _
    rw [insertUnderscores, if_pos hends, insertUnderscores, if_neg (ne_true_of_eq_false hcapital)]
    rfl
  skip := by
    intro c rest h
    cases rest with
    | nil => cases h
    | cons u after =>
      rw [endsWord, Bool.and_eq_true] at h
      exact ⟨[c], [u], after, rfl, c, u, rfl, rfl, h.1, h.2⟩

/-- What the pass for words leaves behind after the pass for acronyms. -/
def MarksSegments (cs marked : List Char) : Prop :=
  ∃ acronyms, Marks AcronymMatch cs acronyms ∧ Marks WordMatch acronyms marked

theorem marksSegments_iff {cs marked : List Char} :
    MarksSegments cs marked ↔ marked = insertUnderscores endsSegment cs := by
  simp only [MarksSegments, divides_acronyms.marks_iff, divides_words.marks_iff, exists_eq_left,
    insertUnderscores_twice]

end AdminQuery.Inflection
