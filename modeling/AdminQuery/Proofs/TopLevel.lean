import AdminQuery.Proofs.Placeholders

/-!
# Texts cut outside of parentheses and literals

* `Level`: how deep in parentheses, and whether inside a literal, a scan of a text stands
* `TopLevel.cut`, `TopLevel.pieces`: a text cut at each separator that stands outside of both
* `TopLevel.scan`: the level behind a text, unless it closes a parenthesis that it did not open
* `TopLevel.Matched`: a text that closes just what it opens
* `cut_intercalate`: **parts in parentheses, joined by a separator, are what cutting at it gives**
* `cut_intercalate_other`: and another separator does not cut them
* `matched_sql`: every test on a plain column matches what it opens
-/

namespace AdminQuery

/-- Where a scan of a text stands. -/
structure Level where
  depth : Nat
  literal : Bool
  deriving DecidableEq, Repr

namespace Level

/-- Outside of parentheses and literals. -/
def top : Level :=
  ⟨0, false⟩

/-- One pair of parentheses deeper. -/
def raise (level : Level) : Level :=
  ⟨level.depth + 1, level.literal⟩

/-- The level behind a character. -/
def next (level : Level) (c : Char) : Level :=
  if c = Placeholder.quote then ⟨level.depth, !level.literal⟩
  else if level.literal = true then level
  else if c = '(' then ⟨level.depth + 1, false⟩
  else if c = ')' then ⟨level.depth - 1, false⟩
  else level

theorem raise_ne_top (level : Level) : level.raise ≠ top := by
  intro h
  have := congrArg depth h
  simp [raise, top] at this

/-- Inside another pair of parentheses a character does the same, unless it closes that pair. -/
theorem next_raise {level : Level} {c : Char} (h : ¬(c = ')' ∧ level = top)) :
    level.raise.next c = (level.next c).raise := by
  obtain ⟨depth, literal⟩ := level
  simp only [next, raise]
  by_cases hquote : c = Placeholder.quote
  · rw [if_pos hquote, if_pos hquote]
  · rw [if_neg hquote, if_neg hquote]
    cases literal with
    | true => rfl
    | false =>
      by_cases hopen : c = '('
      · simp [hopen]
      · by_cases hclose : c = ')'
        · have hdepth : depth ≠ 0 := fun hzero => h ⟨hclose, by rw [hzero]; rfl⟩
          simp [hclose]
          omega
        · simp [hopen, hclose]

end Level

namespace TopLevel

open Level

/-! ### Cutting -/

/-- A text cut at each separator at the top level; `skip` more characters belong to a separator. -/
def cut (separator : List Char) (skip : Nat) (level : Level) : List Char → List (List Char)
  | [] => [[]]
  | c :: rest =>
    match skip with
    | skip + 1 => cut separator skip level rest
    | 0 =>
      if level = top ∧ separator.isPrefixOf (c :: rest) = true then
        [] :: cut separator (separator.length - 1) level rest
      else (cut separator 0 (level.next c) rest).modifyHead fun piece => c :: piece

/-- The pieces of a text between separators at the top level; the empty text has none. -/
def pieces (separator text : String) : List String :=
  if text.isEmpty then [] else (cut separator.toList 0 top text.toList).map String.ofList

theorem cut_skip (separator : List Char) (level : Level) (skipped rest : List Char) :
    cut separator skipped.length level (skipped ++ rest) = cut separator 0 level rest := by
  induction skipped with
  | nil => rfl
  | cons c skipped ih => exact ih

theorem cut_separator {separator : List Char} (h : separator ≠ []) (rest : List Char) :
    cut separator 0 top (separator ++ rest) = [] :: cut separator 0 top rest := by
  cases separator with
  | nil => exact absurd rfl h
  | cons c tail =>
    have hprefix : (c :: tail).isPrefixOf (c :: (tail ++ rest)) = true := by
      rw [List.isPrefixOf_iff_prefix]
      exact ⟨rest, rfl⟩
    rw [List.cons_append, cut, if_pos ⟨rfl, hprefix⟩]
    exact congrArg _ (cut_skip (c :: tail) top tail rest)

theorem cut_of_ne {separator : List Char} {level : Level} {c : Char} {rest : List Char}
    (h : ¬(level = top ∧ separator.isPrefixOf (c :: rest) = true)) :
    cut separator 0 level (c :: rest) =
      (cut separator 0 (level.next c) rest).modifyHead fun piece => c :: piece := by
  rw [cut, if_neg h]

/-- No piece is longer than the text. -/
theorem length_le_of_mem_cut {separator : List Char} {cs : List Char} :
    ∀ {skip : Nat} {level : Level} {piece : List Char}, piece ∈ cut separator skip level cs →
      piece.length ≤ cs.length := by
  induction cs with
  | nil =>
    intro skip level piece h
    rw [cut, List.mem_singleton] at h
    simp [h]
  | cons c rest ih =>
    intro skip level piece h
    rw [List.length_cons]
    cases skip with
    | succ skip =>
      have := ih h
      omega
    | zero =>
      rw [cut] at h
      split at h
      · rcases List.mem_cons.1 h with rfl | h
        · simp
        · have := ih h
          omega
      · cases hcut : cut separator 0 (level.next c) rest with
        | nil =>
          rw [hcut] at h
          cases h
        | cons first more =>
          have hle : ∀ q ∈ first :: more, q.length ≤ rest.length := fun q hq => ih (hcut ▸ hq)
          rw [hcut, List.modifyHead_cons] at h
          rcases List.mem_cons.1 h with rfl | h
          · have := hle first (by simp)
            rw [List.length_cons]
            omega
          · have := hle piece (by simp [h])
            omega

/-! ### Scanning -/

/-- The level behind a text, unless it closes a parenthesis that is not open. -/
def scan (level : Level) : List Char → Option Level
  | [] => some level
  | c :: rest => if c = ')' ∧ level = top then none else scan (level.next c) rest

theorem scan_append (a b : List Char) :
    ∀ level, scan level (a ++ b) = (scan level a).bind fun behind => scan behind b := by
  induction a with
  | nil => intro level; rfl
  | cons c rest ih =>
    intro level
    rw [List.cons_append, scan, scan]
    split
    · rfl
    · exact ih _

/-- A text does the same inside another pair of parentheses. -/
theorem scan_raise {cs : List Char} :
    ∀ {level behind : Level}, scan level cs = some behind → scan level.raise cs = some behind.raise := by
  induction cs with
  | nil =>
    intro level behind h
    cases h
    rfl
  | cons c rest ih =>
    intro level behind h
    rw [scan] at h ⊢
    split at h
    · cases h
    · rename_i hopen
      rw [if_neg fun hc => level.raise_ne_top hc.2, next_raise hopen]
      exact ih h

/-- Inside parentheses nothing is cut. -/
theorem cut_raise {separator cs rest : List Char} :
    ∀ {level behind : Level}, scan level cs = some behind →
      cut separator 0 level.raise (cs ++ rest) =
        (cut separator 0 behind.raise rest).modifyHead fun piece => cs ++ piece := by
  induction cs with
  | nil =>
    intro level behind h
    cases h
    cases hcut : cut separator 0 level.raise rest <;> simp [hcut]
  | cons c tail ih =>
    intro level behind h
    rw [scan] at h
    split at h
    · cases h
    · rename_i hopen
      rw [List.cons_append, cut_of_ne fun hc => level.raise_ne_top hc.1, next_raise hopen, ih h,
        List.modifyHead_modifyHead]
      rfl

/-- A text that closes the parentheses and literals that it opens, and no others. -/
def Matched (cs : List Char) : Prop :=
  scan top cs = some top

instance (cs : List Char) : Decidable (Matched cs) :=
  inferInstanceAs (Decidable (_ = _))

theorem Matched.append {a b : List Char} (ha : Matched a) (hb : Matched b) : Matched (a ++ b) := by
  rw [Matched, scan_append, ha]
  exact hb

theorem Matched.parenthesis {cs : List Char} (h : Matched cs) :
    Matched ('(' :: (cs ++ [')'])) := by
  have hopen : top.next '(' = top.raise := rfl
  have hclose : scan top.raise [')'] = some top := rfl
  rw [Matched, scan, if_neg (by decide), hopen, scan_append, scan_raise h]
  exact hclose

/-- A matched text in parentheses, then more: the first piece begins with it. -/
theorem cut_parenthesis {separator cs : List Char} (hs : separator.head? = some ' ')
    (h : Matched cs) (rest : List Char) :
    cut separator 0 top ('(' :: (cs ++ [')']) ++ rest) =
      (cut separator 0 top rest).modifyHead fun piece => '(' :: (cs ++ [')']) ++ piece := by
  obtain ⟨tail, rfl⟩ := List.head?_eq_some_iff.1 hs
  have hopen : top.next '(' = top.raise := rfl
  have hclose : top.raise.next ')' = top := rfl
  have hfirst : ¬(top = top ∧ (' ' :: tail).isPrefixOf ('(' :: (cs ++ [')'] ++ rest)) = true) := by
    simp [List.isPrefixOf]
  rw [List.cons_append, cut_of_ne hfirst, hopen, List.append_assoc, cut_raise h, List.singleton_append,
    cut_of_ne fun hc => top.raise_ne_top hc.1, hclose, List.modifyHead_modifyHead,
    List.modifyHead_modifyHead]
  refine congrFun (congrArg _ ?_) _
  funext piece
  simp

/-- A matched text in a pair of parentheses. -/
def Parenthesized (cs : List Char) : Prop :=
  ∃ inner, cs = '(' :: (inner ++ [')']) ∧ Matched inner

/-- **Cutting at a separator gives back the parts that it joined.** -/
theorem cut_intercalate {separator : List Char} (hs : separator.head? = some ' ')
    {parts : List (List Char)} (hne : parts ≠ []) (h : ∀ part ∈ parts, Parenthesized part) :
    cut separator 0 top (separator.intercalate parts) = parts := by
  have hsep : separator ≠ [] := by
    obtain ⟨tail, rfl⟩ := List.head?_eq_some_iff.1 hs
    simp
  cases parts with
  | nil => exact absurd rfl hne
  | cons part rest =>
    induction rest generalizing part with
    | nil =>
      obtain ⟨inner, rfl, hinner⟩ := h part (by simp)
      have hcut := cut_parenthesis hs hinner []
      rw [List.append_nil] at hcut
      simp [hcut, cut]
    | cons next rest ih =>
      obtain ⟨inner, rfl, hinner⟩ := h part (by simp)
      have hrest := ih next (by simp) fun q hq => h q (by simp [hq])
      rw [List.intercalate_cons_cons, List.append_assoc, cut_parenthesis hs hinner,
        cut_separator hsep, hrest]
      simp

example : pieces " AND " "(a BETWEEN ? AND ?) AND (b = ' AND ')" =
    ["(a BETWEEN ? AND ?)", "(b = ' AND ')"] := by decide +kernel

/-- **A separator does not cut what another one joined**, as long as it does not cut the other one. -/
theorem cut_intercalate_other {separator other : List Char} (hs : separator.head? = some ' ')
    (ho : ∀ rest, cut separator 0 top (other ++ '(' :: rest) =
      (cut separator 0 top ('(' :: rest)).modifyHead fun piece => other ++ piece)
    {parts : List (List Char)} (hne : parts ≠ []) (h : ∀ part ∈ parts, Parenthesized part) :
    cut separator 0 top (other.intercalate parts) = [other.intercalate parts] := by
  cases parts with
  | nil => exact absurd rfl hne
  | cons part rest =>
    induction rest generalizing part with
    | nil =>
      obtain ⟨inner, rfl, hinner⟩ := h part (by simp)
      have hcut := cut_parenthesis hs hinner []
      rw [List.append_nil] at hcut
      simp [hcut, cut]
    | cons next rest ih =>
      obtain ⟨inner, rfl, hinner⟩ := h part (by simp)
      have hrest := ih next (by simp) fun q hq => h q (by simp [hq])
      have hopen : ∃ tail, other.intercalate (next :: rest) = '(' :: tail := by
        obtain ⟨inner, rfl, -⟩ := h next (by simp)
        cases rest <;> simp [List.intercalate_cons_cons]
      obtain ⟨tail, htail⟩ := hopen
      rw [List.intercalate_cons_cons, List.append_assoc, cut_parenthesis hs hinner, htail, ho, ← htail,
        hrest]
      simp

end TopLevel

/-! ### Tests match what they open -/

open TopLevel

/-- A plain text leaves every level as it is. -/
theorem Text.IsPlain.matched {s : String} (h : IsPlain s) : Matched s.toList := by
  have hchars : ∀ c ∈ s.toList, c ≠ Placeholder.quote ∧ c ≠ '(' ∧ c ≠ ')' := by
    intro c hc
    exact ⟨h.ne hc (by decide), h.ne hc (by decide), h.ne hc (by decide)⟩
  generalize s.toList = cs at hchars
  induction cs with
  | nil => rfl
  | cons c rest ih =>
    obtain ⟨hquote, hopen, hclose⟩ := hchars c (by simp)
    have hnext : Level.top.next c = Level.top := by
      simp [Level.next, Level.top, hquote, hopen, hclose]
    rw [Matched, scan, if_neg fun hc => hclose hc.1, hnext]
    exact ih fun d hd => hchars d (by simp [hd])

/-- **A test on a plain column closes just what it opens.** -/
theorem matched_sql {column : String} (h : Text.IsPlain column) (predicate : Predicate) :
    Matched (predicate.sql column).toList := by
  have hcolumn := h.matched
  cases predicate with
  | isBlank =>
    have hnull := hcolumn.append (by decide : Matched " IS NULL OR ".toList)
    simp only [Predicate.sql, String.toList_append]
    exact (hnull.append hcolumn).append (by decide)
  | isPresent =>
    have hnull := hcolumn.append (by decide : Matched " IS NOT NULL AND ".toList)
    simp only [Predicate.sql, String.toList_append]
    exact (hnull.append hcolumn).append (by decide)
  | isFalse =>
    have hnull := hcolumn.append (by decide : Matched " IS NULL OR ".toList)
    simp only [Predicate.sql, String.toList_append]
    exact (hnull.append hcolumn).append (by decide)
  | isNull | isNotNull | isEmpty | isNotEmpty | equals | oneOf | between | after | before =>
    simp only [Predicate.sql, String.toList_append]
    exact hcolumn.append (by decide)
  | matchesPattern dialect escaped pattern =>
    have hclause : Matched (if escaped then dialect.escapeClause else "").toList := by
      cases escaped <;> cases dialect <;> decide
    have hmatch : Matched (dialect.patternMatch column).toList := by
      cases dialect with
      | postgres | mysql | sqlite =>
        simp only [Dialect.patternMatch, String.toList_append]
        exact hcolumn.append (by decide)
      | ansi =>
        have hlower := (by decide : Matched "LOWER".toList).append hcolumn.parenthesis
        have hlike := hlower.append (by decide : Matched " LIKE LOWER(?)".toList)
        simpa [Dialect.patternMatch] using hlike
    rw [Predicate.sql, String.toList_append]
    exact hmatch.append hclause

end AdminQuery
