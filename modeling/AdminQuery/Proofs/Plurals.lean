import AdminQuery.Inflection
import Mathlib.Data.List.Basic

/-!
# Plurals and singulars

The singular is read off the plural alone, and the plural of one noun may look like that of another: `cookies` is
taken for the plural of `cooky`.  Which nouns come back shows in their ending.

* `stem?_eq_some_iff`, `stem?_eq_none_iff`: the characters in front of an ending
* `singularChars_of_not_es`, `singularChars_of_dropsEs`, `singularChars_of_not_dropsEs`: the singular, by the ending
  of the word
* `pluralChars_cases`: the plural, by the ending of the noun
* `IsRecoverable`: the endings of nouns that come back from their plural
* `singularChars_pluralChars`, `differ_of_not_isRecoverable`: **a recoverable noun comes back as it was, and any
  other longer or shorter**
* `singularChars_pluralChars_eq_iff`: a noun comes back exactly if it is recoverable
-/

namespace AdminQuery.Inflection

/-! ### Endings -/

section Endings

variable {suffix stem cs : List Char}

theorem stem?_eq_none_iff : stem? suffix cs = none ↔ ¬suffix <:+ cs := by
  rw [stem?, ite_eq_right_iff, ← List.isSuffixOf_iff_suffix]
  exact forall_congr' fun _ => iff_of_false (Option.some_ne_none _) id

/-- The characters in front of an ending. -/
theorem take_length_sub_append (stem suffix : List Char) :
    (stem ++ suffix).take ((stem ++ suffix).length - suffix.length) = stem := by
  rw [List.length_append, Nat.add_sub_cancel, List.take_left]

theorem stem?_eq_some_iff : stem? suffix cs = some stem ↔ cs = stem ++ suffix := by
  constructor
  · intro h
    have hends : suffix <:+ cs := by
      by_contra hnot
      rw [stem?_eq_none_iff.2 hnot] at h
      cases h
    obtain ⟨front, rfl⟩ := hends
    rw [stem?, if_pos (List.isSuffixOf_iff_suffix.2 (List.suffix_append front suffix)),
      take_length_sub_append] at h
    rw [Option.some.inj h]
  · rintro rfl
    rw [stem?, if_pos (List.isSuffixOf_iff_suffix.2 (List.suffix_append stem suffix)),
      take_length_sub_append]

/-- Of two endings, a word has both only if one of them ends in the other. -/
theorem not_suffix_append {ending other : List Char} (h : ¬(ending <:+ other ∨ other <:+ ending))
    (stem : List Char) : ¬ending <:+ stem ++ other :=
  fun hends => h (List.suffix_or_suffix_of_suffix hends (List.suffix_append stem other))

end Endings

/-! ### Singulars -/

/-- Every plural that loses more than its `s` ends in `es`. -/
theorem es_suffix_of_mem_sibilantPlurals : ∀ suffix ∈ sibilantPlurals, ['e', 's'] <:+ suffix := by
  decide

theorem singularChars_of_not_ies {cs : List Char} (h : ¬['i', 'e', 's'] <:+ cs) :
    singularChars cs = singularRegular cs := by
  rw [singularChars, stem?_eq_none_iff.2 h]

/-- Behind another ending than `es`, a singular loses its `s` at most. -/
theorem singularChars_of_not_es {cs : List Char} (h : ¬['e', 's'] <:+ cs) :
    singularChars cs = dropFinalS cs := by
  have hies : ¬['i', 'e', 's'] <:+ cs := fun hends => h ((List.suffix_append ['i'] ['e', 's']).trans hends)
  have hsibilant : sibilantPlurals.any (·.isSuffixOf cs) = false := by
    rw [List.any_eq_false]
    intro suffix hmem hends
    exact h ((es_suffix_of_mem_sibilantPlurals suffix hmem).trans (List.isSuffixOf_iff_suffix.1 hends))
  rw [singularChars_of_not_ies hies]
  exact if_neg (ne_true_of_eq_false hsibilant)

theorem dropFinalS_of_ss {cs : List Char} (h : ['s', 's'] <:+ cs) : dropFinalS cs = cs :=
  if_pos (List.isSuffixOf_iff_suffix.2 h)

theorem dropFinalS_concat {stem : List Char} (hne : stem ≠ []) (h : ¬['s'] <:+ stem) :
    dropFinalS (stem ++ ['s']) = stem := by
  have hss : ¬['s', 's'].isSuffixOf (stem ++ ['s']) := by
    intro hends
    have hboth : ['s'] ++ ['s'] <:+ stem ++ ['s'] := List.isSuffixOf_iff_suffix.1 hends
    exact h (List.suffix_append_self_iff.1 hboth)
  obtain ⟨c, rest, rfl⟩ := List.exists_cons_of_ne_nil hne
  rw [dropFinalS, if_neg hss, stem?_eq_some_iff.2 rfl]

theorem dropFinalS_of_not_s {cs : List Char} (h : ¬['s'] <:+ cs) : dropFinalS cs = cs := by
  have hss : ¬['s', 's'].isSuffixOf cs := fun hends =>
    h ((List.suffix_append ['s'] ['s']).trans (List.isSuffixOf_iff_suffix.1 hends))
  rw [dropFinalS, if_neg hss, stem?_eq_none_iff.2 h]

/-- A word with another last letter than `s` is its own singular. -/
theorem singularChars_of_not_s {cs : List Char} (h : ¬['s'] <:+ cs) : singularChars cs = cs := by
  have hes : ¬['e', 's'] <:+ cs := fun hends => h ((List.suffix_append ['e'] ['s']).trans hends)
  rw [singularChars_of_not_es hes, dropFinalS_of_not_s h]

/-- A word that ends in `ss` is its own singular. -/
theorem singularChars_ss (stem : List Char) : singularChars (stem ++ ['s', 's']) = stem ++ ['s', 's'] := by
  rw [singularChars_of_not_es (not_suffix_append (by decide) stem),
    dropFinalS_of_ss (List.suffix_append stem ['s', 's'])]

/-- A word that ends in `us` is taken for a plural. -/
theorem singularChars_us (stem : List Char) : singularChars (stem ++ ['u', 's']) = stem ++ ['u'] := by
  rw [singularChars_of_not_es (not_suffix_append (by decide) stem), List.append_cons stem 'u' ['s']]
  exact dropFinalS_concat (List.concat_ne_nil 'u' stem) (not_suffix_append (by decide) stem)

/-- Behind other letters than `e` and `s`, an `s` comes and goes. -/
theorem singularChars_concat_s {cs : List Char} (hne : cs ≠ []) (he : ¬['e'] <:+ cs) (hs : ¬['s'] <:+ cs) :
    singularChars (cs ++ ['s']) = cs := by
  have hes : ¬['e', 's'] <:+ cs ++ ['s'] := by
    show ¬['e'] ++ ['s'] <:+ cs ++ ['s']
    rwa [List.suffix_append_self_iff]
  rw [singularChars_of_not_es hes, dropFinalS_concat hne hs]

/-- A word in `ies` comes from one in `y`, if there is anything in front. -/
theorem singularChars_ies {stem : List Char} (h : stem ≠ []) :
    singularChars (stem ++ ['i', 'e', 's']) = stem ++ ['y'] := by
  obtain ⟨c, rest, rfl⟩ := List.exists_cons_of_ne_nil h
  rw [singularChars, stem?_eq_some_iff.2 rfl]

/-- What the plurals that lose `es` end in without it. -/
def sibilantStems : List (List Char) :=
  [['s', 's'], ['u', 's'], ['x'], ['c', 'h'], ['s', 'h'], ['z', 'z']]

theorem sibilantPlurals_eq : sibilantPlurals = sibilantStems.map (· ++ ['e', 's']) := rfl

/-- A word whose plural in `es` loses both letters. -/
def DropsEs (cs : List Char) : Prop :=
  ∃ ending ∈ sibilantStems, ending <:+ cs

theorem any_sibilantPlurals_iff {cs : List Char} :
    sibilantPlurals.any (·.isSuffixOf (cs ++ ['e', 's'])) = true ↔ DropsEs cs := by
  simp only [sibilantPlurals_eq, List.any_map, List.any_eq_true, Function.comp_apply,
    List.isSuffixOf_iff_suffix, List.suffix_append_self_iff, DropsEs]

theorem not_ies_suffix {cs : List Char} (h : ¬['i'] <:+ cs) : ¬['i', 'e', 's'] <:+ cs ++ ['e', 's'] := by
  show ¬['i'] ++ ['e', 's'] <:+ cs ++ ['e', 's']
  rwa [List.suffix_append_self_iff]

/-- Behind one of these endings, `es` is dropped. -/
theorem singularChars_of_dropsEs {cs : List Char} (h : DropsEs cs) :
    singularChars (cs ++ ['e', 's']) = cs := by
  have hi : ¬['i'] <:+ cs := by
    obtain ⟨ending, hmem, front, rfl⟩ := h
    have hother : ∀ ending ∈ sibilantStems, ¬(['i'] <:+ ending ∨ ending <:+ ['i']) := by decide
    exact not_suffix_append (hother ending hmem) front
  rw [singularChars_of_not_ies (not_ies_suffix hi), singularRegular, if_pos (any_sibilantPlurals_iff.2 h)]
  exact take_length_sub_append cs ['e', 's']

/-- Behind any other letter than `i`, only the `s` is dropped. -/
theorem singularChars_of_not_dropsEs {cs : List Char} (hi : ¬['i'] <:+ cs) (h : ¬DropsEs cs) :
    singularChars (cs ++ ['e', 's']) = cs ++ ['e'] := by
  rw [singularChars_of_not_ies (not_ies_suffix hi), singularRegular, if_neg (mt any_sibilantPlurals_iff.1 h),
    List.append_cons cs 'e' ['s']]
  exact dropFinalS_concat (List.concat_ne_nil 'e' cs) (not_suffix_append (by decide) cs)

/-- Only the stems that have the last letter of a word can be its ending. -/
theorem dropsEs_iff_of_last {c : Char} {cs : List Char} (h : [c] <:+ cs) :
    DropsEs cs ↔ ∃ ending ∈ sibilantStems.filter ([c].isSuffixOf ·), ending <:+ cs := by
  have hne : ∀ ending ∈ sibilantStems, ending ≠ [] := by decide
  simp only [DropsEs, List.mem_filter, List.isSuffixOf_iff_suffix]
  constructor
  · rintro ⟨ending, hmem, hends⟩
    refine ⟨ending, ⟨hmem, ?_⟩, hends⟩
    have hpos := List.length_pos_iff.2 (hne ending hmem)
    exact List.suffix_of_suffix_length_le h hends hpos
  · rintro ⟨ending, ⟨hmem, -⟩, hends⟩
    exact ⟨ending, hmem, hends⟩

/-- Of the words that end in `s`, those in `ss` and `us` have a plural that loses `es`. -/
theorem dropsEs_iff_of_s {cs : List Char} (h : ['s'] <:+ cs) :
    DropsEs cs ↔ ['s', 's'] <:+ cs ∨ ['u', 's'] <:+ cs := by
  have hstems : sibilantStems.filter (['s'].isSuffixOf ·) = [['s', 's'], ['u', 's']] := by decide
  rw [dropsEs_iff_of_last h, hstems]
  simp only [List.exists_mem_cons_iff, List.not_mem_nil, false_and, exists_const, or_false]

theorem dropsEs_iff_of_z {cs : List Char} (h : ['z'] <:+ cs) :
    DropsEs cs ↔ ['z', 'z'] <:+ cs := by
  have hstems : sibilantStems.filter (['z'].isSuffixOf ·) = [['z', 'z']] := by decide
  rw [dropsEs_iff_of_last h, hstems]
  simp only [List.mem_singleton, exists_eq_left]

/-! ### Plurals -/

section Plurals

variable {cs : List Char}

theorem any_sibilants_iff :
    sibilants.any (·.isSuffixOf cs) = true ↔ ∃ ending ∈ sibilants, ending <:+ cs := by
  simp only [List.any_eq_true, List.isSuffixOf_iff_suffix]

theorem pluralRegular_of_sibilant (h : ∃ ending ∈ sibilants, ending <:+ cs) :
    pluralRegular cs = cs ++ ['e', 's'] :=
  if_pos (any_sibilants_iff.2 h)

theorem pluralRegular_of_not_sibilant (h : ¬∃ ending ∈ sibilants, ending <:+ cs) :
    pluralRegular cs = cs ++ ['s'] :=
  if_neg (mt any_sibilants_iff.1 h)

theorem pluralChars_of_not_y (h : ¬['y'] <:+ cs) : pluralChars cs = pluralRegular cs := by
  rw [pluralChars, stem?_eq_none_iff.2 h]

/-- A final `e` is followed by `s` alone. -/
theorem pluralChars_concat_e (stem : List Char) : pluralChars (stem ++ ['e']) = stem ++ ['e', 's'] := by
  have hsibilant : ¬∃ ending ∈ sibilants, ending <:+ stem ++ ['e'] := by
    rintro ⟨ending, hmem, hends⟩
    have hother : ∀ ending ∈ sibilants, ¬(ending <:+ ['e'] ∨ ['e'] <:+ ending) := by decide
    exact not_suffix_append (hother ending hmem) stem hends
  rw [pluralChars_of_not_y (not_suffix_append (by decide) stem), pluralRegular_of_not_sibilant hsibilant,
    List.append_assoc]
  rfl

/-- A plural changes a final `y` behind another letter, or adds to the word. -/
theorem pluralChars_cases (cs : List Char) :
    (∃ stem, stem ≠ [] ∧ cs = stem ++ ['y'] ∧ pluralChars cs = stem ++ ['i', 'e', 's']) ∨
      pluralChars cs = pluralRegular cs := by
  by_cases hy : ['y'] <:+ cs
  · obtain ⟨stem, rfl⟩ := hy
    rw [pluralChars, stem?_eq_some_iff.2 rfl]
    dsimp only
    cases hlast : stem.getLast? with
    | none => exact .inr rfl
    | some c =>
      cases hvowel : isVowel c with
      | true => exact .inr (if_pos hvowel)
      | false =>
        refine .inl ⟨stem, ?_, rfl, if_neg (ne_true_of_eq_false hvowel)⟩
        rintro rfl
        cases hlast
  · exact .inr (pluralChars_of_not_y hy)

end Plurals

/-! ### Endings of recoverable nouns -/

/-- The endings whose `e` goes with the `s` of the plural. -/
def lossyEndings : List (List Char) :=
  [['s', 's', 'e'], ['u', 's', 'e'], ['x', 'e'], ['c', 'h', 'e'], ['s', 'h', 'e'], ['z', 'z', 'e']]

/-- The nouns that come back from their plural.  The plural of any other noun looks like that of another word:
`cookies` like that of `cooky`, `houses` like that of `hous`, `gases` like that of `gase`. -/
structure IsRecoverable (noun : List Char) : Prop where
  ne_nil : noun ≠ []
  of_ie : ['i', 'e'] <:+ noun → noun = ['i', 'e']
  not_lossy : ∀ ending ∈ lossyEndings, ¬ending <:+ noun
  of_s : ['s'] <:+ noun → ['s', 's'] <:+ noun ∨ ['u', 's'] <:+ noun
  of_z : ['z'] <:+ noun → ['z', 'z'] <:+ noun

theorem isRecoverable_iff {noun : List Char} : IsRecoverable noun ↔
    noun ≠ [] ∧ (['i', 'e'] <:+ noun → noun = ['i', 'e']) ∧ (∀ ending ∈ lossyEndings, ¬ending <:+ noun) ∧
      (['s'] <:+ noun → ['s', 's'] <:+ noun ∨ ['u', 's'] <:+ noun) ∧ (['z'] <:+ noun → ['z', 'z'] <:+ noun) :=
  ⟨fun h => ⟨h.ne_nil, h.of_ie, h.not_lossy, h.of_s, h.of_z⟩, fun ⟨hnil, hie, hlossy, hs, hz⟩ =>
    ⟨hnil, hie, hlossy, hs, hz⟩⟩

instance : DecidablePred IsRecoverable :=
  fun _ => decidable_of_iff _ isRecoverable_iff.symm

theorem lossyEndings_eq : lossyEndings = sibilantStems.map (· ++ ['e']) := rfl

/-- A final `e` is lost behind the stems that the plural's `es` is dropped from. -/
theorem dropsEs_iff_lossy {stem : List Char} :
    DropsEs stem ↔ ∃ ending ∈ lossyEndings, ending <:+ stem ++ ['e'] := by
  simp only [lossyEndings_eq, List.mem_map, exists_exists_and_eq_and, List.suffix_append_self_iff, DropsEs]

/-! ### Plurals that are undone -/

/-- A recoverable noun with a plural in `es` loses `es` again. -/
theorem IsRecoverable.dropsEs {noun : List Char} (h : IsRecoverable noun)
    (hsibilant : ∃ ending ∈ sibilants, ending <:+ noun) : DropsEs noun := by
  obtain ⟨ending, hmem, hends⟩ := hsibilant
  simp only [sibilants, List.mem_cons, List.not_mem_nil, or_false] at hmem
  rcases hmem with rfl | rfl | rfl | rfl | rfl
  · rcases h.of_s hends with hss | hus
    · exact ⟨_, by decide, hss⟩
    · exact ⟨_, by decide, hus⟩
  · exact ⟨_, by decide, hends⟩
  · exact ⟨_, by decide, h.of_z hends⟩
  · exact ⟨_, by decide, hends⟩
  · exact ⟨_, by decide, hends⟩

/-- A recoverable noun in `e` keeps it. -/
theorem IsRecoverable.singularChars_es {stem : List Char} (h : IsRecoverable (stem ++ ['e'])) :
    singularChars (stem ++ ['e', 's']) = stem ++ ['e'] := by
  by_cases hi : ['i'] <:+ stem
  · -- `ie` itself is short enough for its plural not to be taken for that of a word in `y`
    obtain ⟨front, rfl⟩ := hi
    have hie := h.of_ie ⟨front, by rw [List.append_assoc]; rfl⟩
    obtain rfl : front = [] := by simpa using congrArg List.length hie
    decide
  · refine singularChars_of_not_dropsEs hi ?_
    rw [dropsEs_iff_lossy]
    rintro ⟨ending, hmem, hends⟩
    exact h.not_lossy ending hmem hends

/-- **The plural of a recoverable noun gives the noun back.** -/
theorem singularChars_pluralChars {noun : List Char} (h : IsRecoverable noun) :
    singularChars (pluralChars noun) = noun := by
  rcases pluralChars_cases noun with ⟨stem, hstem, rfl, hplural⟩ | hplural
  · rw [hplural, singularChars_ies hstem]
  · by_cases hsibilant : ∃ ending ∈ sibilants, ending <:+ noun
    · rw [hplural, pluralRegular_of_sibilant hsibilant, singularChars_of_dropsEs (h.dropsEs hsibilant)]
    · by_cases he : ['e'] <:+ noun
      · obtain ⟨stem, rfl⟩ := he
        rw [pluralChars_concat_e, h.singularChars_es]
      · have hs : ¬['s'] <:+ noun := fun hs => hsibilant ⟨['s'], by decide, hs⟩
        rw [hplural, pluralRegular_of_not_sibilant hsibilant, singularChars_concat_s h.ne_nil he hs]

/-! ### Plurals that are not -/

/-- Two words that differ in small letters at their ends, and in their length. -/
def DifferAtEnd (cs ds : List Char) : Prop :=
  ∃ stem lost gained, cs = stem ++ lost ∧ ds = stem ++ gained ∧
    lost.all Char.isLower = true ∧ gained.all Char.isLower = true ∧ lost.length ≠ gained.length

theorem DifferAtEnd.ne {cs ds : List Char} (h : DifferAtEnd cs ds) : cs ≠ ds := by
  obtain ⟨stem, lost, gained, rfl, rfl, -, -, hlength⟩ := h
  intro heq
  exact hlength (congrArg List.length (List.append_cancel_left heq))

/-- A noun with a plural in `es` that does not lose it comes back with an `e`. -/
theorem differ_of_sibilant {noun : List Char} (hsibilant : ∃ ending ∈ sibilants, ending <:+ noun)
    (h : ¬DropsEs noun) : DifferAtEnd noun (singularChars (pluralChars noun)) := by
  have hlast : ¬['y'] <:+ noun ∧ ¬['i'] <:+ noun := by
    obtain ⟨ending, hmem, front, rfl⟩ := hsibilant
    have hother : ∀ ending ∈ sibilants, ¬(['y'] <:+ ending ∨ ending <:+ ['y']) ∧
        ¬(['i'] <:+ ending ∨ ending <:+ ['i']) := by decide
    exact ⟨not_suffix_append (hother ending hmem).1 front, not_suffix_append (hother ending hmem).2 front⟩
  rw [pluralChars_of_not_y hlast.1, pluralRegular_of_sibilant hsibilant,
    singularChars_of_not_dropsEs hlast.2 h]
  exact ⟨noun, [], ['e'], (List.append_nil noun).symm, rfl, rfl, rfl, by decide⟩

/-- **The plural of any other noun gives a longer or shorter word.** -/
theorem differ_of_not_isRecoverable {noun : List Char} (h : ¬IsRecoverable noun) :
    DifferAtEnd noun (singularChars (pluralChars noun)) := by
  simp only [isRecoverable_iff, not_and_or, not_forall, not_not, exists_prop, not_or] at h
  rcases h with hnil | ⟨hie, hlonger⟩ | ⟨ending, hmem, hends⟩ | ⟨hs, hss, hus⟩ | ⟨hz, hzz⟩
  · -- the `s` of the empty word is the whole plural, and stays
    rw [hnil]
    exact ⟨[], [], ['s'], rfl, by decide, rfl, rfl, by decide⟩
  · obtain ⟨stem, rfl⟩ := hie
    have hstem : stem ≠ [] := by
      rintro rfl
      exact hlonger rfl
    have hplural : pluralChars (stem ++ ['i', 'e']) = stem ++ ['i', 'e', 's'] := by
      rw [List.append_cons stem 'i' ['e'], pluralChars_concat_e, List.append_assoc]
      rfl
    rw [hplural, singularChars_ies hstem]
    exact ⟨stem, ['i', 'e'], ['y'], rfl, rfl, rfl, rfl, by decide⟩
  · have hlast : ∀ ending ∈ lossyEndings, ['e'] <:+ ending := by decide
    obtain ⟨stem, rfl⟩ := (hlast ending hmem).trans hends
    rw [pluralChars_concat_e,
      singularChars_of_dropsEs (dropsEs_iff_lossy.2 ⟨ending, hmem, hends⟩)]
    exact ⟨stem, ['e'], [], rfl, (List.append_nil stem).symm, rfl, rfl, by decide⟩
  · refine differ_of_sibilant ⟨['s'], by decide, hs⟩ ?_
    rw [dropsEs_iff_of_s hs]
    exact not_or_intro hss hus
  · refine differ_of_sibilant ⟨['z'], by decide, hz⟩ ?_
    rwa [dropsEs_iff_of_z hz]

/-- **A noun comes back from its plural exactly if it is recoverable.** -/
theorem singularChars_pluralChars_eq_iff {noun : List Char} :
    singularChars (pluralChars noun) = noun ↔ IsRecoverable noun := by
  refine ⟨?_, singularChars_pluralChars⟩
  intro hback
  by_contra hnot
  exact (differ_of_not_isRecoverable hnot).ne hback.symm

end AdminQuery.Inflection
