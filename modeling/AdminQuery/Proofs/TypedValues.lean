import AdminQuery.Proofs.Provenance

/-!
# Values of the type of their column

* `Fits`: the tests on a column of a storage type against a submitted value, with what they bind
* `bounds_of_integer?`, `Date.start_le_finish`: the values that integers and days bind
* `fits_of_pattern`, `fits_of_temporal`: matches of texts, and of dates
* `fits_of_predicate?`: **an entry only gives tests that fit**
-/

namespace AdminQuery

/-- The tests on a column of type `type` for which `value` was submitted, with the values they bind. -/
inductive Fits (value column : String) : StorageType → String → List Binding → Prop where
  /-- A control token binds nothing. -/
  | control {type : StorageType} {text : String} :
    text ∈ controlTexts column → Fits value column type text []
  | pattern {type : StorageType} {text pattern : String} :
    type.isTextual = true → text ∈ patternTexts column →
    Fits value column type text [.text pattern]
  | integer {n : Int} :
    Number.minInteger ≤ n → n ≤ Number.maxInteger →
    Fits value column .integer (column ++ " = ?") [.integer n]
  | isTrue : Fits value column .boolean (column ++ " = ?") [.boolean true]
  | isFalse :
    Fits value column .boolean (column ++ " IS NULL OR " ++ column ++ " = ?") [.boolean false]
  | number {type : StorageType} {x : Double} :
    type = .float ∨ type = .decimal → x.isFinite = true →
    Fits value column type (column ++ " = ?") [.float x]
  /-- The value as it was submitted. -/
  | member : Fits value column .enum (column ++ " IN (?)") [.list [value]]
  | days {type : StorageType} {low high : Instant} :
    type.isTemporal = true → low ≤ high →
    Fits value column type (column ++ " BETWEEN ? AND ?") [.timestamp low, .timestamp high]
  | after {type : StorageType} {t : Instant} :
    type.isTemporal = true → Fits value column type (column ++ " > ?") [.timestamp t]
  | before {type : StorageType} {t : Instant} :
    type.isTemporal = true → Fits value column type (column ++ " < ?") [.timestamp t]

/-- Textual types are tested alike. -/
theorem Fits.of_isTextual {value column text : String} {type declared : StorageType}
    {own : List Binding} (h : Fits value column type text own) (ht : type.isTextual = true)
    (hd : declared.isTextual = true) : Fits value column declared text own := by
  cases h with
  | control hmem => exact .control hmem
  | pattern _ hmem => exact .pattern hd hmem
  | integer | isTrue | isFalse | member => cases ht
  | number htype _ => rcases htype with rfl | rfl <;> cases ht
  | days htype _ | after htype | before htype =>
    cases type <;> simp [StorageType.isTextual, StorageType.isTemporal] at ht htype

theorem bounds_of_integer? {s : String} {n : Int} (h : Number.integer? s = some n) :
    Number.minInteger ≤ n ∧ n ≤ Number.maxInteger := by
  rw [Number.integer?, Number.integerOfChars?] at h
  simp only [Option.ite_none_right_eq_some, Option.some.injEq] at h
  obtain ⟨-, hbounds, rfl⟩ := h
  exact hbounds

/-- A day starts before a later day, or the same day, ends. -/
theorem Date.start_le_finish {first last : Date} (h : first.dayNumber ≤ last.dayNumber) :
    first.start ≤ last.finish := by
  refine .inl ?_
  simp only [Date.start, Date.finish, secondsPerDay]
  omega

theorem sql_mem_patternTexts (dialect : Dialect) (escaped : Bool) (pattern column : String) :
    (Predicate.matchesPattern dialect escaped pattern).sql column ∈ patternTexts column := by
  cases dialect <;> cases escaped <;>
    simp [Predicate.sql, Dialect.patternMatch, Dialect.escapeClause, patternTexts]

theorem fits_of_pattern {style : PatternStyle} {position : MatchPosition} {value column : String}
    {type : StorageType} {predicate : Predicate} (ht : type.isTextual = true)
    (h : style.predicate? position value = some predicate) :
    Fits value column type (predicate.sql column) predicate.bindings := by
  rw [PatternStyle.predicate?] at h
  split at h
  · cases h
  · cases h
    exact .pattern ht (sql_mem_patternTexts _ _ _ _)

/-- The days that an operator names come in order. -/
theorem fits_of_temporal {op : TemporalOperator} {value column : String} {now : Instant}
    {type : StorageType} {predicate : Predicate} (ht : type.isTemporal = true)
    (h : op.predicate? value now = some predicate) :
    Fits value column type (predicate.sql column) predicate.bindings := by
  rcases TemporalOperator.predicate?_cases h with ⟨first, last, hle, rfl⟩ | ⟨t, rfl | rfl⟩
  · exact .days ht (Date.start_le_finish hle)
  · exact .after ht
  · exact .before ht

/-- **An entry only gives tests that fit the storage type.** -/
theorem fits_of_predicate? {entry : FilterEntry} {style : PatternStyle} {type : StorageType}
    {now : Instant} {predicate : Predicate} (h : entry.predicate? style type now = some predicate)
    (column : String) : Fits entry.value column type (predicate.sql column) predicate.bindings := by
  rw [FilterEntry.predicate?] at h
  cases htoken : entry.controlToken? with
  | some token =>
    rw [htoken] at h
    cases token <;> cases h <;> exact .control (by simp [Predicate.sql, controlTexts])
  | none =>
    rw [htoken] at h
    change entry.valuePredicate? style type now = some predicate at h
    rw [FilterEntry.valuePredicate?.eq_def] at h
    cases type with
    | string | text => exact fits_of_pattern rfl h
    | date | datetime | timestamp => exact fits_of_temporal rfl h
    | integer =>
      obtain ⟨n, hn, rfl⟩ := Option.map_eq_some_iff.1 h
      obtain ⟨hmin, hmax⟩ := bounds_of_integer? hn
      exact .integer hmin hmax
    | float =>
      obtain ⟨x, hx, rfl⟩ := Option.map_eq_some_iff.1 h
      exact .number (.inl rfl) (Option.filter_eq_some_iff.1 hx).2
    | decimal =>
      obtain ⟨x, hx, rfl⟩ := Option.map_eq_some_iff.1 h
      exact .number (.inr rfl) (Option.filter_eq_some_iff.1 hx).2
    | boolean =>
      simp only [Predicate.ofTruthText?] at h
      split at h
      · cases h
        exact .isFalse
      · split at h
        · cases h
          exact .isTrue
        · cases h
    | enum =>
      cases h
      exact .member
    | binary => cases h

end AdminQuery
