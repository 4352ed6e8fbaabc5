import AdminQuery.Filter.EntryPredicate
import AdminQuery.Proofs.Instants

/-!
# Conditions on dates

* `FilterEntry.condition?`: the condition that an entry gives on a column
* `Condition.between`, `Condition.after`, `Condition.before`: the conditions that dates are tested with
* `controlToken?_eq_none`, `condition?_of_values`: an entry is settled by its value when neither slot holds a
  control token
* `condition?_of_temporal`: **on a column of dates, such an entry gives the test that its operator asks for**
-/

namespace AdminQuery

/-- The condition of an entry on one column. -/
def FilterEntry.condition? (entry : FilterEntry) (style : PatternStyle) (column : String)
    (type : StorageType) (now : Instant) : Option Condition :=
  (entry.atom? style column type now).map Atom.condition

namespace Condition

/-- A column between two instants, both included. -/
def between (column : String) (low high : Instant) : Condition :=
  ⟨"(" ++ column ++ " BETWEEN ? AND ?)", [.timestamp low, .timestamp high]⟩

/-- A column after an instant. -/
def after (column : String) (t : Instant) : Condition :=
  ⟨"(" ++ column ++ " > ?)", [.timestamp t]⟩

/-- A column before an instant. -/
def before (column : String) (t : Instant) : Condition :=
  ⟨"(" ++ column ++ " < ?)", [.timestamp t]⟩

end Condition

theorem condition_ofDays (column : String) (first last : Date) :
    Atom.condition ⟨column, .ofDays first last⟩ = .between column first.start last.finish := by
  simp [Atom.condition, Predicate.ofDays, Predicate.sql, Predicate.bindings, Condition.between,
    String.append_assoc]

theorem condition_after (column : String) (t : Instant) :
    Atom.condition ⟨column, .after t⟩ = .after column t := by
  simp [Atom.condition, Predicate.sql, Predicate.bindings, Condition.after, String.append_assoc]

theorem condition_before (column : String) (t : Instant) :
    Atom.condition ⟨column, .before t⟩ = .before column t := by
  simp [Atom.condition, Predicate.sql, Predicate.bindings, Condition.before, String.append_assoc]

/-! ### Entries without control tokens -/

/-- Control tokens start with an underscore, blanks in front of it aside. -/
theorem ControlToken.ofText?_eq_none {s : String} (h : (Text.trim s).toList.head? ≠ some '_') :
    ofText? s = none := by
  have hne : ∀ token : String, token.toList.head? = some '_' → Text.trim s ≠ token := by
    rintro token htoken rfl
    exact h htoken
  rw [ofText?]
  simp only [hne "_discard" rfl, hne "_blank" rfl, hne "_present" rfl, hne "_null" rfl,
    hne "_not_null" rfl, hne "_empty" rfl, hne "_not_empty" rfl, if_false]

/-- Without a control token in a slot there is none that settles the entry. -/
theorem controlToken?_eq_none {operator : Option String} {value : String}
    (hoperator : ∀ token ∈ operator, ControlToken.ofText? token = none)
    (hvalue : ControlToken.ofText? value = none) :
    (⟨operator, value⟩ : FilterEntry).controlToken? = none := by
  cases operator with
  | none => rw [FilterEntry.controlToken?, hvalue]; rfl
  | some token =>
    rw [FilterEntry.controlToken?, hvalue, Option.bind_some, hoperator token rfl]
    rfl

/-- An entry without control tokens gives the test that its value asks for. -/
theorem condition?_of_values {operator : Option String} {value : String}
    (hoperator : ∀ token ∈ operator, ControlToken.ofText? token = none)
    (hvalue : ControlToken.ofText? value = none) (style : PatternStyle) (column : String)
    (type : StorageType) (now : Instant) :
    (⟨operator, value⟩ : FilterEntry).condition? style column type now =
      ((⟨operator, value⟩ : FilterEntry).valuePredicate? style type now).map fun predicate =>
        Atom.condition ⟨column, predicate⟩ := by
  rw [FilterEntry.condition?, FilterEntry.atom?, FilterEntry.predicate?,
    controlToken?_eq_none hoperator hvalue, Option.map_map]
  rfl

/-- **On a column of dates an entry without control tokens gives the test that its operator asks for.** -/
theorem condition?_of_temporal {operator : Option String} {value : String} {type : StorageType}
    (htype : type.isTemporal = true)
    (hoperator : ∀ token ∈ operator, ControlToken.ofText? token = none)
    (hvalue : ControlToken.ofText? value = none) (style : PatternStyle) (column : String)
    (now : Instant) :
    (⟨operator, value⟩ : FilterEntry).condition? style column type now =
      ((TemporalOperator.ofOperator operator).predicate? value now).map fun predicate =>
        Atom.condition ⟨column, predicate⟩ := by
  rw [condition?_of_values hoperator hvalue]
  cases type with
  | date | datetime | timestamp => rfl
  | _ => cases htype

/-- **An operator is read without the blanks around it**: only the token that is left matters. -/
theorem condition?_of_token (op : TemporalOperator) {operator token value : String}
    {type : StorageType} (htoken : Text.trim operator = token) (hplain : Text.trim token = token)
    (hop : TemporalOperator.ofToken token = op) (hcontrol : token.toList.head? ≠ some '_')
    (htype : type.isTemporal = true) (hvalue : ControlToken.ofText? value = none)
    (style : PatternStyle) (column : String) (now : Instant) :
    (⟨some operator, value⟩ : FilterEntry).condition? style column type now =
      (op.predicate? value now).map fun predicate => Atom.condition ⟨column, predicate⟩ := by
  have hofToken : TemporalOperator.ofOperator (some operator) = op := by
    rw [← hop]
    show TemporalOperator.ofToken operator = TemporalOperator.ofToken token
    rw [TemporalOperator.ofToken, TemporalOperator.ofToken, htoken, hplain]
  rw [← hofToken]
  refine condition?_of_temporal htype ?_ hvalue style column now
  intro other hother
  cases hother
  exact ControlToken.ofText?_eq_none (by rwa [htoken])

end AdminQuery
