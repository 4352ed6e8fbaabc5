import AdminQuery.Proofs.CatalogRegistration
import AdminQuery.Proofs.DividedNames
import AdminQuery.Proofs.Placeholders
import AdminQuery.Proofs.Plurals

/-!
# Underscored names

A type that names no table is kept in the table of its underscored name, and is referred to by a key of that name.
What is derived from an identifier has to be an identifier again, with nothing of it lost.

* `sublist_insertUnderscores`, `filter_insertUnderscores`: underscores are put in, and nothing else happens
* `toList_snakeCase`: the underscored form of an identifier
* `isIdentifier_snakeCase`, `isIdentifier_plural`: **underscored forms and plurals of identifiers are identifiers**
* `snakeCase_snakeCase`: an underscored form is its own underscored form
* `validate_eq_ok_iff_of_derived`, `exists_of_validate_eq_error`: a declaration without a table is judged by the
  names that it gives
* `underscored_names_are_identifiers`: **all of it**
-/

namespace AdminQuery

namespace Inflection

open AdminQuery.Text

/-! ### Nothing but underscores is put in -/

section Letters

variable (boundary : Char → List Char → Bool) (cs : List Char)

/-- All characters stay, in their order. -/
theorem sublist_insertUnderscores : cs.Sublist (insertUnderscores boundary cs) := by
  induction cs with
  | nil => exact .slnil
  | cons c rest ih =>
    rw [insertUnderscores]
    split
    · exact (ih.cons '_').cons_cons c
    · exact ih.cons_cons c

/-- Whatever is added is an underscore. -/
theorem filter_insertUnderscores :
    (insertUnderscores boundary cs).filter (· ≠ '_') = cs.filter (· ≠ '_') := by
  induction cs with
  | nil => rfl
  | cons c rest ih =>
    rw [insertUnderscores]
    split
    · simp only [List.filter_cons, ih, ne_eq, not_true_eq_false, decide_false, Bool.false_eq_true, if_false]
    · simp only [List.filter_cons, ih]

variable {boundary cs}

theorem mem_insertUnderscores {c : Char} (h : c ∈ insertUnderscores boundary cs) : c ∈ cs ∨ c = '_' := by
  by_cases hc : c = '_'
  · exact .inr hc
  · have hkept : c ∈ (insertUnderscores boundary cs).filter (· ≠ '_') :=
      List.mem_filter.2 ⟨h, decide_eq_true hc⟩
    rw [filter_insertUnderscores] at hkept
    exact .inl (List.mem_filter.1 hkept).1

/-- Without capitals there is nothing to divide. -/
theorem insertUnderscores_of_not_isUpper (h : ∀ c ∈ cs, c.isUpper = false) :
    insertUnderscores endsSegment cs = cs := by
  induction cs with
  | nil => rfl
  | cons c rest ih =>
    have hinside : endsSegment c rest = false := by
      cases rest with
      | nil => simp [endsSegment, endsAcronym, endsWord]
      | cons d rest => exact endsSegment_of_not_isUpper (h d (by simp)) c rest
    rw [insertUnderscores, hinside, if_neg Bool.false_ne_true, ih fun d hd => h d (List.mem_cons_of_mem c hd)]

end Letters

/-- A name with its underscores deleted. -/
def withoutUnderscores (name : String) : String :=
  String.ofList (name.toList.filter (· ≠ '_'))

/-! ### Identifiers -/

/-- An identifier starts as one and goes on as one. -/
theorem isIdentifier_iff {s : String} : isIdentifier s = true ↔
    s.toList.head?.any isIdentifierStart = true ∧ ∀ c ∈ s.toList, isIdentifierRest c = true := by
  constructor
  · intro h
    refine ⟨?_, fun c hc => isIdentifierRest_of_mem h hc⟩
    rw [isIdentifier] at h
    cases hs : s.toList with
    | nil => simp [hs, isIdentifierChars] at h
    | cons c rest =>
      rw [hs, isIdentifierChars, Bool.and_eq_true] at h
      exact h.1
  · rintro ⟨hstart, hrest⟩
    rw [isIdentifier]
    cases hs : s.toList with
    | nil => simp [hs] at hstart
    | cons c rest =>
      rw [hs] at hstart hrest
      rw [isIdentifierChars, Bool.and_eq_true, List.all_eq_true]
      exact ⟨hstart, fun d hd => hrest d (List.mem_cons_of_mem c hd)⟩

theorem toList_ne_nil_of_isIdentifier {s : String} (h : isIdentifier s = true) : s.toList ≠ [] := by
  intro hnil
  have hstart := (isIdentifier_iff.1 h).1
  rw [hnil] at hstart
  cases hstart

/-- An identifier may get another ending, as long as its start is kept. -/
theorem isIdentifier_ofList_append {stem new : List Char} (hstem : stem ≠ []) (old : List Char)
    (h : isIdentifier (String.ofList (stem ++ old)) = true) (hnew : new.all isIdentifierRest = true) :
    isIdentifier (String.ofList (stem ++ new)) = true := by
  simp only [isIdentifier_iff, String.toList_ofList, List.head?_append_of_ne_nil _ hstem,
    List.forall_mem_append] at h ⊢
  exact ⟨h.1, h.2.1, List.all_eq_true.1 hnew⟩

/-- What may stand in an identifier is in lower case one of small letters, digits and underscores, and an
underscore only if it was one. -/
theorem toLower_of_isIdentifierRest {c : Char} (h : isIdentifierRest c = true) :
    ((c.toLower.isLower = true ∨ c.toLower.isDigit = true) ∨ c.toLower = '_') ∧
      (c.toLower = '_' ↔ c = '_') ∧ (isIdentifierStart c = true → isIdentifierStart c.toLower = true) :=
  of_isIdentifierRest (p := fun c => isIdentifierRest c = true →
      ((c.toLower.isLower = true ∨ c.toLower.isDigit = true) ∨ c.toLower = '_') ∧
        (c.toLower = '_' ↔ c = '_') ∧ (isIdentifierStart c = true → isIdentifierStart c.toLower = true))
    (by decide +kernel) h h

section Identifier

variable {name : String} (h : isIdentifier name = true)

include h

theorem isIdentifierRest_of_mem_insertUnderscores {boundary : Char → List Char → Bool} {c : Char}
    (hc : c ∈ insertUnderscores boundary name.toList) : isIdentifierRest c = true := by
  rcases mem_insertUnderscores hc with hmem | rfl
  · exact isIdentifierRest_of_mem h hmem
  · rfl

/-- **The underscored form of an identifier is divided, then written in lower case.** -/
theorem toList_snakeCase :
    (snakeCase name).toList = (insertUnderscores endsSegment name.toList).map Char.toLower := by
  rw [snakeCase, String.toList_ofList, snakeCaseChars, insertUnderscores_twice]
  exact lowerCaseAfter_identifier (fun c hc => isIdentifierRest_of_mem_insertUnderscores h hc) []

theorem isLower_of_mem_snakeCase {c : Char} (hc : c ∈ (snakeCase name).toList) :
    (c.isLower = true ∨ c.isDigit = true) ∨ c = '_' := by
  rw [toList_snakeCase h] at hc
  obtain ⟨d, hd, rfl⟩ := List.mem_map.1 hc
  exact (toLower_of_isIdentifierRest (isIdentifierRest_of_mem_insertUnderscores h hd)).1

/-- **The underscored form of an identifier is an identifier.** -/
theorem isIdentifier_snakeCase : isIdentifier (snakeCase name) = true := by
  rw [isIdentifier_iff]
  constructor
  · obtain ⟨hstart, hrest⟩ := isIdentifier_iff.1 h
    rw [toList_snakeCase h, List.head?_map, head?_insertUnderscores]
    cases hname : name.toList with
    | nil => simp [hname] at hstart
    | cons c rest =>
      rw [hname] at hstart hrest
      exact (toLower_of_isIdentifierRest (hrest c List.mem_cons_self)).2.2 hstart
  · intro c hc
    rw [isIdentifierRest_iff]
    rcases isLower_of_mem_snakeCase h hc with (hlower | hdigit) | rfl
    · exact .inl (.inl (.inr hlower))
    · exact .inl (.inr hdigit)
    · exact .inr rfl

/-- Underscores aside, the underscored form is the name in lower case. -/
theorem withoutUnderscores_snakeCase :
    withoutUnderscores (snakeCase name) = withoutUnderscores (asciiLowerCase name) := by
  have hlower {cs : List Char} (hcs : ∀ c ∈ cs, isIdentifierRest c = true) :
      (cs.map Char.toLower).filter (· ≠ '_') = (cs.filter (· ≠ '_')).map Char.toLower := by
    rw [List.filter_map]
    refine congrArg _ (List.filter_congr fun c hc => ?_)
    exact decide_eq_decide.2 (not_congr (toLower_of_isIdentifierRest (hcs c hc)).2.1)
  rw [withoutUnderscores, withoutUnderscores, toList_snakeCase h, asciiLowerCase, String.toList_ofList,
    hlower fun c hc => isIdentifierRest_of_mem_insertUnderscores h hc, filter_insertUnderscores,
    hlower fun c hc => isIdentifierRest_of_mem h hc]

theorem sublist_snakeCase : (asciiLowerCase name).toList.Sublist (snakeCase name).toList := by
  rw [toList_snakeCase h, asciiLowerCase, String.toList_ofList]
  exact (sublist_insertUnderscores endsSegment name.toList).map Char.toLower

/-- **An underscored form is its own underscored form.** -/
theorem snakeCase_snakeCase : snakeCase (snakeCase name) = snakeCase name := by
  have hsmall (c : Char) (hc : c ∈ (snakeCase name).toList) : c.isUpper = false ∧ c.toLower = c := by
    rcases isLower_of_mem_snakeCase h hc with hword | rfl
    · obtain ⟨hupper, hlower, -⟩ := lower_of_isWordRest (Bool.or_eq_true_iff.2 hword)
      exact ⟨hupper, hlower⟩
    · exact ⟨rfl, rfl⟩
  apply String.toList_injective
  rw [toList_snakeCase (isIdentifier_snakeCase h),
    insertUnderscores_of_not_isUpper fun c hc => (hsmall c hc).1,
    List.map_congr_left fun c hc => (hsmall c hc).2, List.map_id']

/-- An identifier may go on. -/
theorem isIdentifier_append {ending : String} (hending : ending.toList.all isIdentifierRest = true) :
    isIdentifier (name ++ ending) = true := by
  have hne := toList_ne_nil_of_isIdentifier h
  have htext : name ++ ending = String.ofList (name.toList ++ ending.toList) := by
    rw [String.ofList_append, String.ofList_toList, String.ofList_toList]
  rw [htext]
  refine isIdentifier_ofList_append hne [] ?_ hending
  rwa [List.append_nil, String.ofList_toList]

/-- **The plural of an identifier is an identifier**, since it keeps at least the first letter. -/
theorem isIdentifier_plural : isIdentifier (plural name) = true := by
  have hadd {ending : List Char} (hending : ending.all isIdentifierRest = true) :
      isIdentifier (String.ofList (name.toList ++ ending)) = true := by
    rw [String.ofList_append, String.ofList_toList]
    exact isIdentifier_append h (by rwa [String.toList_ofList])
  rw [plural]
  rcases pluralChars_cases name.toList with ⟨stem, hstem, hy, hplural⟩ | hplural
  · rw [hplural]
    refine isIdentifier_ofList_append hstem ['y'] ?_ rfl
    rwa [← hy, String.ofList_toList]
  · rw [hplural, pluralRegular]
    split
    · exact hadd rfl
    · exact hadd rfl

theorem isIdentifier_tableName : isIdentifier (tableName name) = true :=
  isIdentifier_plural (isIdentifier_snakeCase h)

theorem isIdentifier_referenceKey : isIdentifier (referenceKey name) = true :=
  isIdentifier_append (isIdentifier_snakeCase h) (by decide +kernel)

end Identifier

end Inflection

/-! ### Declarations without a table -/

namespace TypeDeclaration

/-- The names that a declaration gives besides those of its type and its table. -/
def givenNames (decl : TypeDeclaration) : List String :=
  decl.primaryKey.toList ++ decl.columns.map Column.name

variable {decl : TypeDeclaration} {given : String}

theorem mem_identifiers_of_mem_givenNames (h : given ∈ decl.givenNames) : given ∈ decl.identifiers := by
  rw [givenNames, List.mem_append, Option.mem_toList] at h
  rcases h with hkey | hcolumn
  · have hkey : decl.recordType.primaryKey = given := by
      simp only [recordType, RecordType.ofParts, hkey, Option.getD_some]
    simp [identifiers, hkey]
  · exact List.mem_append_right _ hcolumn

/-- Where the table is derived from an identifier, only the names that the declaration gives may fail. -/
theorem mem_givenNames_of_mem_identifiers (hname : Text.isIdentifier decl.name = true)
    (htable : decl.table = none) (h : given ∈ decl.identifiers) (hgiven : Text.isIdentifier given = false) :
    given ∈ decl.givenNames := by
  have hother {known : String} (hknown : Text.isIdentifier known = true) : given ≠ known := by
    rintro rfl
    rw [hknown] at hgiven
    cases hgiven
  have hderived : given ≠ decl.recordType.tableName := by
    apply hother
    simp only [recordType, RecordType.ofParts, htable, Option.getD_none]
    exact Inflection.isIdentifier_tableName hname
  simp only [identifiers, List.cons_append, List.nil_append, List.mem_cons, hother hname, hderived, false_or] at h
  rw [givenNames, List.mem_append, Option.mem_toList]
  rcases h with hkey | hcolumn
  · left
    cases hset : decl.primaryKey with
    | none =>
      have hconventional : Text.isIdentifier RecordType.conventionalKey = true := by decide +kernel
      rw [recordType, RecordType.ofParts, hset, Option.getD_none] at hkey
      exact absurd hkey (hother hconventional)
    | some key =>
      rw [recordType, RecordType.ofParts, hset, Option.getD_some] at hkey
      rw [hkey]
  · exact .inr hcolumn

/-- A declaration is refused for the first of its names that is no identifier. -/
theorem firstInvalid_of_validate_eq_error {e : CatalogError} (h : decl.validate = .error e) :
    ∃ name, decl.FirstInvalid name ∧ e = .invalidIdentifier decl.name name := by
  rw [validate] at h
  cases hinvalid : decl.invalidIdentifier? with
  | none =>
    rw [hinvalid] at h
    cases h
  | some name =>
    rw [hinvalid] at h
    exact ⟨name, invalidIdentifier?_eq_some_iff.1 hinvalid, (Except.error.inj h).symm⟩

/-- **A declaration without a table is accepted when the names that it gives are identifiers.** -/
theorem validate_eq_ok_iff_of_derived (hname : Text.isIdentifier decl.name = true)
    (htable : decl.table = none) :
    decl.validate = .ok () ↔ ∀ given ∈ decl.givenNames, Text.isIdentifier given = true := by
  rw [validate_eq_ok_iff]
  constructor
  · intro h given hgiven
    exact h given (mem_identifiers_of_mem_givenNames hgiven)
  · intro h given hmem
    by_contra hfails
    have hgiven := mem_givenNames_of_mem_identifiers hname htable hmem (Bool.eq_false_iff.2 hfails)
    exact hfails (h given hgiven)

/-- **What such a declaration is refused for is a name that it gives**, and not its table. -/
theorem exists_of_validate_eq_error (hname : Text.isIdentifier decl.name = true) (htable : decl.table = none)
    {e : CatalogError} (h : decl.validate = .error e) :
    ∃ given ∈ decl.givenNames, Text.isIdentifier given = false ∧
      given ≠ Inflection.tableName decl.name ∧ e = .invalidIdentifier decl.name given := by
  obtain ⟨given, ⟨before, after, hsplit, -, hfails⟩, rfl⟩ := firstInvalid_of_validate_eq_error h
  have hmem : given ∈ decl.identifiers := by
    rw [hsplit]
    exact List.mem_append_right before List.mem_cons_self
  refine ⟨given, mem_givenNames_of_mem_identifiers hname htable hmem hfails, hfails, ?_, rfl⟩
  rintro rfl
  rw [Inflection.isIdentifier_tableName hname] at hfails
  cases hfails

end TypeDeclaration

/-- **Underscored names are identifiers that lose nothing.**  The two passes over an identifier have one outcome, and
the underscored form is that outcome in lower case: an identifier of small letters, digits and underscores, which
holds the name in lower case, has underscores alone besides it, and is its own underscored form.  So the table and
the key that are derived from the name are identifiers, and a declaration that names no table is accepted or refused
for the other names that it gives. -/
theorem underscored_names_are_identifiers {name : String} (h : Text.isIdentifier name = true) :
    (∃ marked, (∀ other, Inflection.MarksSegments name.toList other ↔ other = marked) ∧
      (Inflection.snakeCase name).toList = marked.map Char.toLower) ∧
    (∀ c ∈ (Inflection.snakeCase name).toList, (c.isLower = true ∨ c.isDigit = true) ∨ c = '_') ∧
    Text.isIdentifier (Inflection.snakeCase name) = true ∧
    Inflection.withoutUnderscores (Inflection.snakeCase name) =
      Inflection.withoutUnderscores (Text.asciiLowerCase name) ∧
    (Text.asciiLowerCase name).toList.Sublist (Inflection.snakeCase name).toList ∧
    Inflection.snakeCase (Inflection.snakeCase name) = Inflection.snakeCase name ∧
    Text.isIdentifier (Inflection.tableName name) = true ∧
    Text.isIdentifier (Inflection.referenceKey name) = true ∧
    ∀ decl : TypeDeclaration, decl.name = name → decl.table = none →
      (decl.validate = .ok () ↔ ∀ given ∈ decl.givenNames, Text.isIdentifier given = true) ∧
      ∀ e, decl.validate = .error e → ∃ given ∈ decl.givenNames, Text.isIdentifier given = false ∧
        given ≠ Inflection.tableName name ∧ e = .invalidIdentifier name given := by
  refine ⟨⟨_, fun _ => Inflection.marksSegments_iff, Inflection.toList_snakeCase h⟩,
    fun c hc => Inflection.isLower_of_mem_snakeCase h hc, Inflection.isIdentifier_snakeCase h,
    Inflection.withoutUnderscores_snakeCase h, Inflection.sublist_snakeCase h,
    Inflection.snakeCase_snakeCase h, Inflection.isIdentifier_tableName h,
    Inflection.isIdentifier_referenceKey h, ?_⟩
  rintro decl rfl htable
  exact ⟨TypeDeclaration.validate_eq_ok_iff_of_derived h htable,
    fun e he => TypeDeclaration.exists_of_validate_eq_error h htable he⟩

namespace Newsroom

/-- A feed, with acronyms and a digit in its name and no table. -/
def feed : TypeDeclaration where
  name := "HTTPServer2XMLFeed"
  table := none
  primaryKey := none
  columns := [.ofNameType "id" "integer"]
  relationships := []

end Newsroom

/-- Both passes divide the name of a feed, behind `HTTP` and `XML` and behind `2`; the feed is accepted as it is and
refused for its key alone. -/
theorem underscored_names_are_identifiers_feed :
    Text.isIdentifier "HTTPServer2XMLFeed" = true ∧
      (∃ marked, Inflection.MarksSegments "HTTPServer2XMLFeed".toList marked ∧
        marked.map Char.toLower = "http_server2_xml_feed".toList) ∧
      Inflection.snakeCase "http_server2_xml_feed" = "http_server2_xml_feed" ∧
      Text.isIdentifier "http_server2_xml_feeds" = true ∧
      Text.isIdentifier "http_server2_xml_feed_id" = true ∧
      Newsroom.feed.validate = .ok () ∧
      { Newsroom.feed with primaryKey := some "feed id" }.validate =
        .error (.invalidIdentifier "HTTPServer2XMLFeed" "feed id") ∧
      "feed id" ≠ Inflection.tableName "HTTPServer2XMLFeed" := by
  have hname : Text.isIdentifier "HTTPServer2XMLFeed" = true := by decide +kernel
  have hform : Inflection.snakeCase "HTTPServer2XMLFeed" = "http_server2_xml_feed" := by decide +kernel
  have htableName : Inflection.tableName "HTTPServer2XMLFeed" = "http_server2_xml_feeds" := by decide +kernel
  have hreference : Inflection.referenceKey "HTTPServer2XMLFeed" = "http_server2_xml_feed_id" := by
    decide +kernel
  obtain ⟨⟨marked, hmarked, hlower⟩, -, -, -, -, hsame, htable, hkey, hdecls⟩ :=
    underscored_names_are_identifiers hname
  rw [hform] at hlower hsame
  rw [htableName] at htable
  rw [hreference] at hkey
  have hrefused : { Newsroom.feed with primaryKey := some "feed id" }.validate =
      .error (.invalidIdentifier "HTTPServer2XMLFeed" "feed id") := by decide +kernel
  obtain ⟨given, -, -, hother, hgiven⟩ := (hdecls _ rfl rfl).2 _ hrefused
  obtain ⟨-, rfl⟩ := CatalogError.invalidIdentifier.inj hgiven
  exact ⟨hname, ⟨marked, (hmarked marked).2 rfl, hlower.symm⟩, hsame, htable, hkey,
    (hdecls Newsroom.feed rfl rfl).1.2 (by decide +kernel), hrefused, hother⟩

end AdminQuery
