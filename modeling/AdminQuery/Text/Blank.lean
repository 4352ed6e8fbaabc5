/-!
# Blank characters and trimming

White space here is the Unicode property `White_Space`, which is wider than the ASCII class of
`Char.isWhitespace`.

* `Text.isBlank`: the property of one character
* `Text.trim`: a text without the blanks at its two ends
* `Text.isAllBlank`: a text of blanks only, the empty text included
-/

namespace AdminQuery.Text

/-- The ranges of Unicode `White_Space`, each given by its first and last code point. -/
def blankRanges : List (Nat × Nat) :=
  [(0x9, 0xD), (0x20, 0x20), (0x85, 0x85), (0xA0, 0xA0), (0x1680, 0x1680), (0x2000, 0x200A),
   (0x2028, 0x2029), (0x202F, 0x202F), (0x205F, 0x205F), (0x3000, 0x3000)]

/-- A character of Unicode `White_Space`. -/
def isBlank (c : Char) : Bool :=
  blankRanges.any fun range => range.1 ≤ c.toNat && c.toNat ≤ range.2

/-- The characters without the blanks in front. -/
def trimStartChars (cs : List Char) : List Char :=
  cs.dropWhile isBlank

/-- The characters without the blanks at either end. -/
def trimChars (cs : List Char) : List Char :=
  (trimStartChars (trimStartChars cs).reverse).reverse

/-- The text without the blanks at either end. -/
def trim (s : String) : String :=
  String.ofList (trimChars s.toList)

/-- Nothing but blanks. -/
def isAllBlank (s : String) : Bool :=
  s.toList.all isBlank

@[simp] theorem toList_trim (s : String) : (trim s).toList = trimChars s.toList := by
  simp [trim]

theorem trimStartChars_eq_nil_iff {cs : List Char} :
    trimStartChars cs = [] ↔ ∀ c ∈ cs, isBlank c = true := by
  induction cs with
  | nil => simp [trimStartChars]
  | cons c rest ih =>
    rw [trimStartChars] at ih
    by_cases h : isBlank c = true <;> simp [trimStartChars, h, ih]

/-- A text is trimmed to nothing exactly when it holds nothing but blanks. -/
theorem trimChars_eq_nil_iff {cs : List Char} : trimChars cs = [] ↔ ∀ c ∈ cs, isBlank c = true := by
  rw [trimChars, List.reverse_eq_nil_iff, trimStartChars_eq_nil_iff]
  simp only [List.mem_reverse]
  refine ⟨fun h => trimStartChars_eq_nil_iff.1 ?_, fun h c hc => ?_⟩
  · cases hs : trimStartChars cs with
    | nil => rfl
    | cons c rest =>
      have hc : isBlank c = true := h c (by rw [hs]; exact List.mem_cons_self)
      have hn := List.head?_dropWhile_not isBlank cs
      rw [trimStartChars] at hs
      have hf : isBlank c = false := by simpa only [hs, List.head?_cons] using hn
      exact absurd hc (by rw [hf]; decide)
  · exact h c ((List.dropWhile_sublist isBlank).subset hc)

/-- Nothing but blanks is what trimming leaves nothing of. -/
theorem isAllBlank_iff_trim {s : String} : isAllBlank s = true ↔ trim s = "" := by
  rw [isAllBlank, List.all_eq_true, ← trimChars_eq_nil_iff, trim, ← String.toList_inj]
  simp

end AdminQuery.Text
