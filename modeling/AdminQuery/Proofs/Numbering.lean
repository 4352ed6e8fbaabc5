import AdminQuery.Proofs.Placeholders

/-!
# Numbered placeholders

The dialect of a store decides how the placeholders of a text are written; whatever stands around them,
a `?` in a literal included, is left as it is.

* `Placeholder.Splits`: the texts before, between and behind the placeholders of a text
* `Placeholder.numbered`: such texts with numbered placeholders between them
* `render_append`: **the parts of a text are rendered one by one**, numbers running on
* `Splits.render`: **a rendered text is made of the texts around its placeholders**
* `inDialect_postgres`, `inDialect_of_ne_postgres`: the two ways to write a condition
-/

namespace AdminQuery

namespace Placeholder

/-! ### Rendering part by part -/

/-- **The parts of a text are rendered one by one**: the second starts with the number and in the
literal that the first leaves behind. -/
theorem render_append (write : Nat → List Char) (a b : List Char) :
    ∀ literal index, render write literal index (a ++ b) = render write literal index a ++
      render write (literalAfter literal a) (index + count literal a) b := by
  induction a with
  | nil => intro literal index; rfl
  | cons c rest ih =>
    intro literal index
    rw [List.cons_append, render, render, literalAfter, count]
    by_cases hquote : c = quote
    · rw [if_pos hquote, if_pos hquote, if_pos hquote, if_pos hquote, ih]
      rfl
    · rw [if_neg hquote, if_neg hquote, if_neg hquote, if_neg hquote]
      by_cases hmark : c = '?' ∧ literal = false
      · have hnext : index + (count literal rest + 1) = index + 1 + count literal rest := by omega
        rw [if_pos hmark, if_pos hmark, if_pos hmark, ih, hnext, List.append_assoc]
      · rw [if_neg hmark, if_neg hmark, if_neg hmark, ih]
        rfl

/-- Text without placeholders is left as it is. -/
theorem render_of_count_eq_zero (write : Nat → List Char) {cs : List Char} :
    ∀ {literal index}, count literal cs = 0 → render write literal index cs = cs := by
  induction cs with
  | nil => intro literal index _; rfl
  | cons c rest ih =>
    intro literal index h
    rw [count] at h
    rw [render]
    by_cases hquote : c = quote
    · rw [if_pos hquote] at h ⊢
      rw [ih h]
    · rw [if_neg hquote] at h ⊢
      by_cases hmark : c = '?' ∧ literal = false
      · rw [if_pos hmark] at h
        omega
      · rw [if_neg hmark] at h ⊢
        rw [ih h]

/-- Placeholders that are written as `?` leave the whole text as it is. -/
theorem render_mark (cs : List Char) :
    ∀ literal index, render (fun _ => ['?']) literal index cs = cs := by
  induction cs with
  | nil => intro literal index; rfl
  | cons c rest ih =>
    intro literal index
    rw [render]
    split
    · rw [ih]
    · split
      · rename_i hmark
        rw [ih, hmark.1]
        rfl
      · rw [ih]

/-! ### The texts around the placeholders -/

/-- The texts before, between and behind the placeholders of a text: none of them has a placeholder of
its own, and none but the last is left inside a literal. -/
inductive Splits : String → List String → Prop where
  | last {part : String} : count false part.toList = 0 → Splits part [part]
  | mark {part rest : String} {parts : List String} : Closed 0 part.toList → Splits rest parts →
    Splits (part ++ "?" ++ rest) (part :: parts)

/-- Texts with placeholders between them, the first of which has the number `index`. -/
def numbered (write : Nat → String) (index : Nat) : List String → String
  | [] => ""
  | [part] => part
  | part :: next :: rest => part ++ write index ++ numbered write (index + 1) (next :: rest)

/-- The first placeholder of a text that has one. -/
theorem exists_first {cs : List Char} : ∀ {literal}, count literal cs ≠ 0 →
    ∃ front back, cs = front ++ '?' :: back ∧ count literal front = 0 ∧
      literalAfter literal front = false := by
  induction cs with
  | nil => intro literal h; exact absurd rfl h
  | cons c rest ih =>
    intro literal h
    rw [count] at h
    by_cases hquote : c = quote
    · rw [if_pos hquote] at h
      obtain ⟨front, back, rfl, hcount, hliteral⟩ := ih h
      refine ⟨c :: front, back, rfl, ?_, ?_⟩
      · rw [count, if_pos hquote, hcount]
      · rw [literalAfter, if_pos hquote, hliteral]
    · rw [if_neg hquote] at h
      by_cases hmark : c = '?' ∧ literal = false
      · obtain ⟨rfl, rfl⟩ := hmark
        exact ⟨[], rest, rfl, rfl, rfl⟩
      · rw [if_neg hmark] at h
        obtain ⟨front, back, rfl, hcount, hliteral⟩ := ih h
        refine ⟨c :: front, back, rfl, ?_, ?_⟩
        · rw [count, if_neg hquote, if_neg hmark, hcount]
        · rw [literalAfter, if_neg hquote, hliteral]

theorem toList_mark (part rest : String) :
    (part ++ "?" ++ rest).toList = part.toList ++ '?' :: rest.toList := by
  simp

theorem count_append_mark {a : List Char} (h : literalAfter false a = false) (b : List Char) :
    count false (a ++ '?' :: b) = count false a + (count false b + 1) := by
  rw [count_append, h]
  rfl

theorem render_append_mark {write : Nat → List Char} {a : List Char} (h : Closed 0 a) (b : List Char)
    (index : Nat) : render write false index (a ++ '?' :: b) =
      a ++ write index ++ render write false (index + 1) b := by
  rw [render_append, render_of_count_eq_zero write h.1, h.1, h.2, List.append_assoc]
  rfl

/-- **Every text splits at its placeholders**, by induction on their number. -/
theorem exists_splits (text : String) : ∃ parts, Splits text parts := by
  generalize hcount : count false text.toList = n
  induction n generalizing text with
  | zero => exact ⟨[text], .last hcount⟩
  | succ n ih =>
    have hne : count false text.toList ≠ 0 := by omega
    obtain ⟨front, back, hchars, hfront, hliteral⟩ := exists_first hne
    have htext : text = String.ofList front ++ "?" ++ String.ofList back := by
      rw [← String.toList_inj, toList_mark, hchars, String.toList_ofList, String.toList_ofList]
    have hback : count false (String.ofList back).toList = n := by
      rw [hchars, count_append_mark hliteral, hfront] at hcount
      rw [String.toList_ofList]
      omega
    have hclosed : Closed 0 (String.ofList front).toList := by
      rw [String.toList_ofList]
      exact ⟨hfront, hliteral⟩
    obtain ⟨parts, hparts⟩ := ih (String.ofList back) hback
    rw [htext]
    exact ⟨String.ofList front :: parts, .mark hclosed hparts⟩

theorem numbered_cons (write : Nat → String) (index : Nat) (part : String) {parts : List String}
    (h : parts ≠ []) :
    numbered write index (part :: parts) = part ++ write index ++ numbered write (index + 1) parts := by
  cases parts with
  | nil => exact absurd rfl h
  | cons next rest => rfl

namespace Splits

variable {text : String} {parts : List String}

theorem ne_nil (h : Splits text parts) : parts ≠ [] := by
  cases h <;> exact List.cons_ne_nil _ _

/-- There is one text more than there are placeholders. -/
theorem length (h : Splits text parts) : parts.length = count false text.toList + 1 := by
  induction h with
  | last h => rw [h, List.length_singleton]
  | mark hpart _ ih =>
    rw [toList_mark, count_append_mark hpart.2, hpart.1, List.length_cons, ih]
    omega

/-- **A rendered text is made of the texts around its placeholders.** -/
theorem render (h : Splits text parts) (write : Nat → String) : ∀ index,
    String.ofList (Placeholder.render (fun i => (write i).toList) false index text.toList) =
      numbered write index parts := by
  induction h with
  | last h =>
    intro index
    rw [render_of_count_eq_zero _ h, String.ofList_toList]
    rfl
  | mark hpart hrest ih =>
    intro index
    rw [toList_mark, render_append_mark hpart, String.ofList_append, String.ofList_append,
      String.ofList_toList, String.ofList_toList, ih, numbered_cons write index _ hrest.ne_nil]

end Splits

end Placeholder

namespace Condition

/-- **In one dialect placeholders are numbered**, each behind a dollar sign. -/
theorem inDialect_postgres {c : Condition} {parts : List String}
    (h : Placeholder.Splits c.sql parts) :
    c.inDialect .postgres = Placeholder.numbered (fun index => "$" ++ toString index) 1 parts :=
  h.render (fun index => "$" ++ toString index) 1

/-- **In the others the text stays as it is.** -/
theorem inDialect_of_ne_postgres (c : Condition) {dialect : Dialect} (h : dialect ≠ .postgres) :
    c.inDialect dialect = c.sql := by
  have hmark : "?".toList = ['?'] := by decide
  have hwrite : (fun index => (dialect.placeholder index).toList) = fun _ => ['?'] := by
    cases dialect with
    | postgres => exact absurd rfl h
    | mysql | sqlite | ansi => exact funext fun _ => hmark
  rw [inDialect, hwrite, Placeholder.render_mark, String.ofList_toList]

end Condition

end AdminQuery
