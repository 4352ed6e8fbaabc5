import AdminQuery.Condition.Atom
import AdminQuery.Condition.Placeholder
import AdminQuery.Text.Identifier

/-!
# Placeholders and literals of texts put together

* `Placeholder.literalAfter`: whether a text ends inside a literal
* `Placeholder.positions`: where the placeholders of a text stand
* `count_append`, `positions_append`: **what the parts of a text have, the whole has**
* `Placeholder.Closed`: a text that closes its literals, and the number of its placeholders
* `Text.IsPlain`: identifiers with dots between them, which hold no sign of their own
* `closed_sql`: **a test on a plain column has a placeholder for each value it binds**
-/

namespace AdminQuery

namespace Placeholder

/-- Whether a text ends inside a literal. -/
def literalAfter (literal : Bool) : List Char → Bool
  | [] => literal
  | c :: rest => literalAfter (if c = quote then !literal else literal) rest

/-- The positions of the placeholders of a text whose first character has the position `start`. -/
def positions (literal : Bool) (start : Nat) : List Char → List Nat
  | [] => []
  | c :: rest =>
    if c = quote then positions (!literal) (start + 1) rest
    else if c = '?' ∧ literal = false then start :: positions literal (start + 1) rest
    else positions literal (start + 1) rest

theorem literalAfter_append (a b : List Char) :
    ∀ literal, literalAfter literal (a ++ b) = literalAfter (literalAfter literal a) b := by
  induction a with
  | nil => intro literal; rfl
  | cons c rest ih => intro literal; exact ih _

/-- The placeholders of a text are those of its parts. -/
theorem count_append (a b : List Char) :
    ∀ literal, count literal (a ++ b) = count literal a + count (literalAfter literal a) b := by
  induction a with
  | nil => intro literal; simp [count, literalAfter]
  | cons c rest ih =>
    intro literal
    rw [List.cons_append, count, count, literalAfter]
    split
    · exact ih _
    · split
      · rw [ih]
        omega
      · exact ih _

/-- The positions in a text are those in its first part, then those in the second behind it. -/
theorem positions_append (a b : List Char) :
    ∀ literal start, positions literal start (a ++ b) =
      positions literal start a ++ positions (literalAfter literal a) (start + a.length) b := by
  induction a with
  | nil => intro literal start; rfl
  | cons c rest ih =>
    intro literal start
    have hlength : start + (c :: rest).length = start + 1 + rest.length := by
      rw [List.length_cons]
      omega
    rw [List.cons_append, positions, positions, literalAfter, hlength]
    split
    · exact ih _ _
    · split
      · rw [ih, List.cons_append]
      · exact ih _ _

theorem length_positions (cs : List Char) :
    ∀ literal start, (positions literal start cs).length = count literal cs := by
  induction cs with
  | nil => intro literal start; rfl
  | cons c rest ih =>
    intro literal start
    rw [positions, count]
    split
    · exact ih _ _
    · split
      · rw [List.length_cons, ih]
      · exact ih _ _

/-- A placeholder stands inside its text. -/
theorem bounds_of_mem_positions {cs : List Char} :
    ∀ {literal : Bool} {start k : Nat}, k ∈ positions literal start cs →
      start ≤ k ∧ k < start + cs.length := by
  induction cs with
  | nil => intro literal start k h; cases h
  | cons c rest ih =>
    intro literal start k h
    rw [positions] at h
    rw [List.length_cons]
    split at h
    · have := ih h
      omega
    · split at h
      · rcases List.mem_cons.1 h with rfl | h
        · omega
        · have := ih h
          omega
      · have := ih h
        omega

/-- A text with `n` placeholders that closes every literal it opens. -/
def Closed (n : Nat) (cs : List Char) : Prop :=
  count false cs = n ∧ literalAfter false cs = false

instance (n : Nat) (cs : List Char) : Decidable (Closed n cs) :=
  inferInstanceAs (Decidable (_ ∧ _))

theorem Closed.append {m n : Nat} {a b : List Char} (ha : Closed m a) (hb : Closed n b) :
    Closed (m + n) (a ++ b) := by
  constructor
  · rw [count_append, ha.1, ha.2, hb.1]
  · rw [literalAfter_append, ha.2, hb.2]

/-- Text without placeholders and quotes. -/
theorem closed_of_forall {cs : List Char} (h : ∀ c ∈ cs, c ≠ '?' ∧ c ≠ quote) : Closed 0 cs := by
  induction cs with
  | nil => exact ⟨rfl, rfl⟩
  | cons c rest ih =>
    obtain ⟨hmark, hquote⟩ := h c (by simp)
    obtain ⟨hcount, hliteral⟩ := ih fun d hd => h d (by simp [hd])
    constructor
    · rw [count, if_neg hquote, if_neg fun hc => hmark hc.1, hcount]
    · rw [literalAfter, if_neg hquote, hliteral]

end Placeholder

namespace Text

/-- An identifier holds letters, digits and underscores only. -/
theorem isIdentifierRest_of_mem {s : String} (h : isIdentifier s = true) {c : Char}
    (hc : c ∈ s.toList) : isIdentifierRest c = true := by
  rw [isIdentifier] at h
  cases hs : s.toList with
  | nil =>
    rw [hs] at hc
    cases hc
  | cons first rest =>
    rw [hs, isIdentifierChars, Bool.and_eq_true] at h
    rw [hs] at hc
    rcases List.mem_cons.1 hc with rfl | hc
    · have hstart := h.1
      simp only [isIdentifierStart, Bool.or_eq_true] at hstart
      simp only [isIdentifierRest, Char.isAlphanum, Bool.or_eq_true]
      exact hstart.imp_left .inl
    · exact List.all_eq_true.1 h.2 c hc

/-- Identifiers with dots between them. -/
def IsPlain (s : String) : Prop :=
  ∀ c ∈ s.toList, isIdentifierRest c = true ∨ c = '.'

theorem isPlain_of_isIdentifier {s : String} (h : isIdentifier s = true) : IsPlain s :=
  fun _ hc => .inl (isIdentifierRest_of_mem h hc)

theorem IsPlain.append {s t : String} (hs : IsPlain s) (ht : IsPlain t) : IsPlain (s ++ t) := by
  intro c hc
  rw [String.toList_append] at hc
  rcases List.mem_append.1 hc with hc | hc
  · exact hs c hc
  · exact ht c hc

/-- A column written with its table. -/
theorem isPlain_qualified {table name : String} (ht : isIdentifier table = true)
    (hn : isIdentifier name = true) : IsPlain (table ++ "." ++ name) :=
  ((isPlain_of_isIdentifier ht).append (by intro c hc; simp_all)).append (isPlain_of_isIdentifier hn)

/-- A plain text does not hold a character with a meaning of its own. -/
theorem IsPlain.ne {s : String} (h : IsPlain s) {c d : Char} (hc : c ∈ s.toList)
    (hd : isIdentifierRest d = false ∧ d ≠ '.') : c ≠ d := by
  rintro rfl
  rcases h c hc with hrest | hdot
  · exact absurd hrest (by simp [hd.1])
  · exact hd.2 hdot

theorem IsPlain.closed {s : String} (h : IsPlain s) : Placeholder.Closed 0 s.toList :=
  Placeholder.closed_of_forall fun c hc => ⟨h.ne hc (by decide), h.ne hc (by decide)⟩

end Text

open Placeholder in
/-- **A test on a plain column has a placeholder for each value it binds, and closes its literals.** -/
theorem closed_sql {column : String} (h : Text.IsPlain column) (predicate : Predicate) :
    Closed predicate.bindings.length (predicate.sql column).toList := by
  have hcolumn := h.closed
  cases predicate with
  | isBlank =>
    have hnull := hcolumn.append (by decide : Closed 0 " IS NULL OR ".toList)
    have hempty : Closed 0 " = ''".toList := by decide
    simp only [Predicate.sql, String.toList_append]
    exact (hnull.append hcolumn).append hempty
  | isPresent =>
    have hnull := hcolumn.append (by decide : Closed 0 " IS NOT NULL AND ".toList)
    have hempty : Closed 0 " != ''".toList := by decide
    simp only [Predicate.sql, String.toList_append]
    exact (hnull.append hcolumn).append hempty
  | isFalse =>
    have hnull := hcolumn.append (by decide : Closed 0 " IS NULL OR ".toList)
    have hvalue : Closed 1 " = ?".toList := by decide
    simp only [Predicate.sql, String.toList_append]
    exact (hnull.append hcolumn).append hvalue
  | isNull | isNotNull | isEmpty | isNotEmpty =>
    simp only [Predicate.sql, String.toList_append]
    exact hcolumn.append (n := 0) (by decide)
  | equals | oneOf | after | before =>
    simp only [Predicate.sql, String.toList_append]
    exact hcolumn.append (n := 1) (by decide)
  | between =>
    simp only [Predicate.sql, String.toList_append]
    exact hcolumn.append (n := 2) (by decide)
  | matchesPattern dialect escaped pattern =>
    have hclause : Closed 0 (if escaped then dialect.escapeClause else "").toList := by
      cases escaped <;> cases dialect <;> decide
    have hmatch : Closed 1 (dialect.patternMatch column).toList := by
      cases dialect with
      | postgres | mysql | sqlite =>
        simp only [Dialect.patternMatch, String.toList_append]
        exact hcolumn.append (n := 1) (by decide)
      | ansi =>
        simp only [Dialect.patternMatch, String.toList_append]
        exact ((by decide : Closed 0 "LOWER(".toList).append hcolumn).append (n := 1) (by decide)
    rw [Predicate.sql, String.toList_append]
    exact hmatch.append hclause

end AdminQuery
