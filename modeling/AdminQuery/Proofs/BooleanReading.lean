import AdminQuery.Proofs.Alignment
import AdminQuery.Proofs.Lists
import AdminQuery.Proofs.TopLevel

/-!
# The text of a condition read as a boolean expression

`AND` binds tighter than `OR`, and parentheses group.  Read in this way, the text of a condition has the
value of the tree that it was put together from.

* `Condition.split`: a condition cut at a separator, each piece with the values of its placeholders
* `Condition.holds`: the value of a text, when each atom in it has one
* `Condition.Grouped`: a condition in one pair of parentheses
* `split_join`, `split_all`: **what was joined by one separator is cut by it, and not by the other**
* `holds_any`, `holds_all`: **one step of reading**
-/

namespace AdminQuery

open TopLevel

namespace Condition

/-! ### Reading -/

/-- Each text with the values of its placeholders, dealt out in order. -/
def deal : List String → List Binding → List Condition
  | [], _ => []
  | text :: rest, bindings =>
    ⟨text, bindings.take (Placeholder.count false text.toList)⟩ ::
      deal rest (bindings.drop (Placeholder.count false text.toList))

/-- A condition cut at a separator. -/
def split (separator : String) (c : Condition) : List Condition :=
  deal (pieces separator c.sql) c.bindings

/-- The inside of a group: of parentheses that begin with further parentheses. -/
def inside? (c : Condition) : Option Condition :=
  match c.sql.toList with
  | '(' :: '(' :: rest => some ⟨String.ofList ('(' :: rest.dropLast), c.bindings⟩
  | _ => none

theorem sql_mem_of_mem_deal {texts : List String} {d : Condition} :
    ∀ {bindings : List Binding}, d ∈ deal texts bindings → d.sql ∈ texts := by
  induction texts with
  | nil =>
    intro bindings h
    cases h
  | cons text rest ih =>
    intro bindings h
    rcases List.mem_cons.1 h with rfl | h
    · simp
    · exact List.mem_cons_of_mem _ (ih h)

theorem length_le_of_mem_split {separator : String} {c d : Condition} (h : d ∈ c.split separator) :
    d.sql.length ≤ c.sql.length := by
  have hmem := sql_mem_of_mem_deal h
  rw [pieces] at hmem
  split at hmem
  · cases hmem
  · obtain ⟨piece, hpiece, heq⟩ := List.mem_map.1 hmem
    rw [← heq, String.length_ofList, ← String.length_toList]
    exact length_le_of_mem_cut hpiece

theorem length_inside? {c inner : Condition} (h : c.inside? = some inner) :
    inner.sql.length < c.sql.length := by
  rw [inside?] at h
  split at h
  · rename_i rest heq
    cases h
    rw [← String.length_toList (s := c.sql), heq, String.length_ofList]
    simp only [List.length_cons, List.length_dropLast]
    omega
  · cases h

/-- The value of a text when `truth` gives the value of each atom in it: an `OR` of `AND`s of atoms and
of groups; the empty text is true. -/
def holds (truth : Condition → Bool) (c : Condition) : Bool :=
  c.isAlways ||
    (c.split " OR ").attach.any fun d =>
      (d.1.split " AND ").attach.all fun e =>
        match _h : e.1.inside? with
        | some inner => holds truth inner
        | none => truth e.1
termination_by c.sql.length
decreasing_by
  have hd := length_le_of_mem_split d.2
  have he := length_le_of_mem_split e.2
  have hinner := length_inside? _h
  omega

/-- The value of an atom or of a group. -/
def termHolds (truth : Condition → Bool) (c : Condition) : Bool :=
  match c.inside? with
  | some inner => holds truth inner
  | none => truth c

theorem holds_eq (truth : Condition → Bool) (c : Condition) :
    c.holds truth = (c.isAlways ||
      (c.split " OR ").any fun d => (d.split " AND ").all (termHolds truth)) := by
  have hterm : ∀ e : Condition, (match _h : e.inside? with
      | some inner => holds truth inner
      | none => truth e) = termHolds truth e := by
    intro e
    rw [termHolds]
    split <;> simp_all
  rw [holds]
  simp only [hterm]
  simp

/-! ### What was joined is cut again -/

/-- A condition in one pair of parentheses, with a value for each placeholder. -/
structure Grouped (c : Condition) : Prop where
  parenthesized : Parenthesized c.sql.toList
  closed : c.IsClosed

theorem Grouped.isAlways {c : Condition} (h : c.Grouped) : c.isAlways = false := by
  obtain ⟨inner, hinner, -⟩ := h.parenthesized
  rw [Condition.isAlways, ← Bool.not_eq_true, String.isEmpty_iff, ← String.toList_inj, hinner]
  simp

theorem present_of_grouped {parts : List Condition} (h : ∀ part ∈ parts, part.Grouped) :
    present parts = parts := by
  rw [present, List.filter_eq_self]
  intro part hpart
  simp [(h part hpart).isAlways]

/-- Texts get back the values that were bound for them. -/
theorem deal_map {parts : List Condition} (h : ∀ part ∈ parts, part.IsClosed) :
    deal (parts.map sql) (parts.flatMap bindings) = parts := by
  induction parts with
  | nil => rfl
  | cons part rest ih =>
    have hcount : Placeholder.count false part.sql.toList = part.bindings.length :=
      (h part (by simp)).1
    rw [List.map_cons, List.flatMap_cons, deal, hcount, List.take_left, List.drop_left,
      ih fun d hd => h d (by simp [hd])]

theorem parenthesized_of_grouped {parts : List Condition} (h : ∀ part ∈ parts, part.Grouped) :
    ∀ text ∈ (parts.map sql).map String.toList, Parenthesized text := by
  rw [List.map_map]
  exact List.forall_mem_map.2 fun part hpart => (h part hpart).parenthesized

theorem isAlways_join_of_grouped (separator : String) {parts : List Condition} (hne : parts ≠ [])
    (h : ∀ part ∈ parts, part.Grouped) : (join separator parts).isAlways = false := by
  refine isAlways_join_of_present ?_
  rwa [present_of_grouped h]

/-- The pieces of a join are the texts of its parts. -/
theorem pieces_join {separator : String} (hs : separator.toList.head? = some ' ')
    {parts : List Condition} (h : ∀ part ∈ parts, part.Grouped) :
    pieces separator (join separator parts).sql = parts.map sql := by
  by_cases hne : parts = []
  · rw [hne, join_nil]
    rfl
  · have hpresent := present_of_grouped h
    have halways := isAlways_join_of_grouped separator hne h
    have htexts := parenthesized_of_grouped h
    rw [isAlways] at halways
    rw [pieces, halways, join_eq_present, hpresent]
    simp only [Bool.false_eq_true, if_false, String.toList_intercalate]
    rw [cut_intercalate hs (by simpa using hne) htexts, List.map_map]
    simp

theorem isClosed_all {parts : List Condition} (h : ∀ part ∈ parts, part.Grouped) :
    (all parts).IsClosed := by
  have hclosed : ∀ part ∈ parts, part.TrivialOr IsClosed := fun part hpart => .inr (h part hpart).closed
  exact isClosed_of_trivialOr (composes_isClosed.all hclosed)

/-- **What a separator joined is what cutting at it gives**, values included. -/
theorem split_join {separator : String} (hs : separator.toList.head? = some ' ')
    {parts : List Condition} (h : ∀ part ∈ parts, part.Grouped) :
    (join separator parts).split separator = parts := by
  rw [split, pieces_join hs h, join_eq_present, present_of_grouped h]
  exact deal_map fun part hpart => (h part hpart).closed

theorem split_grouped {separator : String} (hs : separator.toList.head? = some ' ')
    {c : Condition} (h : c.Grouped) : c.split separator = [c] := by
  have hpart : ∀ part ∈ [c], part.Grouped := by simpa using h
  have hsingle : join separator [c] = c := by
    rw [join_eq_present, present_of_grouped hpart]
    simp
  have hsplit := split_join hs hpart
  rwa [hsingle] at hsplit

/-- No `OR` begins inside an `AND` in front of a parenthesis. -/
theorem cut_or_and (rest : List Char) :
    cut " OR ".toList 0 .top (" AND ".toList ++ '(' :: rest) =
      (cut " OR ".toList 0 .top ('(' :: rest)).modifyHead fun piece => " AND ".toList ++ piece := by
  have hor : " OR ".toList = [' ', 'O', 'R', ' '] := rfl
  have hand : " AND ".toList = [' ', 'A', 'N', 'D', ' '] := rfl
  have hnext : ∀ c ∈ [' ', 'A', 'N', 'D'], Level.top.next c = Level.top := by
    simp [Level.next, Level.top, Placeholder.quote]
  rw [hor, hand]
  show cut [' ', 'O', 'R', ' '] 0 .top (' ' :: 'A' :: 'N' :: 'D' :: ' ' :: '(' :: rest) = _
  rw [cut_of_ne (by simp [List.isPrefixOf]), hnext ' ' (by simp), cut_of_ne (by simp [List.isPrefixOf]),
    hnext 'A' (by simp), cut_of_ne (by simp [List.isPrefixOf]), hnext 'N' (by simp),
    cut_of_ne (by simp [List.isPrefixOf]), hnext 'D' (by simp), cut_of_ne (by simp [List.isPrefixOf]),
    hnext ' ' (by simp)]
  simp only [List.modifyHead_modifyHead]
  rfl

/-- **`OR` does not cut what `AND` joined.** -/
theorem split_all {parts : List Condition} (hne : parts ≠ []) (h : ∀ part ∈ parts, part.Grouped) :
    (all parts).split " OR " = [all parts] := by
  have hpresent := present_of_grouped h
  have halways : (all parts).isAlways = false := isAlways_join_of_grouped " AND " hne h
  have htexts := parenthesized_of_grouped h
  have hsql : (all parts).sql.toList =
      " AND ".toList.intercalate ((parts.map sql).map String.toList) := by
    rw [all, join_eq_present, hpresent, String.toList_intercalate]
  have hpieces : pieces " OR " (all parts).sql = [(all parts).sql] := by
    rw [isAlways] at halways
    rw [pieces, halways, hsql]
    simp only [Bool.false_eq_true, if_false]
    rw [cut_intercalate_other rfl cut_or_and (by simpa using hne) htexts, ← hsql]
    simp
  have hcount : Placeholder.count false (all parts).sql.toList = (all parts).bindings.length :=
    (isClosed_all h).1
  rw [split, hpieces, deal, hcount, List.take_length]
  rfl

/-- **Alternatives hold when one of them does.** -/
theorem holds_any (truth : Condition → Bool) {parts : List Condition}
    (h : ∀ part ∈ parts, part.Grouped) :
    (any parts).holds truth = (parts.isEmpty || parts.any (termHolds truth)) := by
  rw [holds_eq]
  by_cases hne : parts = []
  · rw [hne]
    rfl
  · have halways : (any parts).isAlways = false := isAlways_join_of_grouped " OR " hne h
    have hsplit : (any parts).split " OR " = parts := split_join rfl h
    rw [halways, hsplit, Bool.false_or, List.isEmpty_eq_false_iff.2 hne, Bool.false_or]
    have hterms : ∀ d ∈ parts, (d.split " AND ").all (termHolds truth) = termHolds truth d := by
      intro d hd
      rw [split_grouped rfl (h d hd)]
      simp
    exact any_congr_of_mem hterms

/-- **Conditions that are joined by `AND` hold when all of them do.** -/
theorem holds_all (truth : Condition → Bool) {parts : List Condition}
    (h : ∀ part ∈ parts, part.Grouped) : (all parts).holds truth = parts.all (termHolds truth) := by
  rw [holds_eq]
  by_cases hne : parts = []
  · rw [hne]
    rfl
  · have halways : (all parts).isAlways = false := isAlways_join_of_grouped " AND " hne h
    have hsplit : (all parts).split " AND " = parts := split_join rfl h
    rw [halways, split_all hne h]
    simp [hsplit]

end Condition

end AdminQuery
