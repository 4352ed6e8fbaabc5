import AdminQuery.Proofs.DateConditions
import AdminQuery.Proofs.ParentLabels

/-!
# Control tokens

A control token settles an entry from either slot, before the type of a column, the operator or the store are
looked at.  With tokens in both slots the earlier one does.

* `ControlToken.text`, `ControlToken.fragment?`: a token as it is written, and the condition it stands for
* `FilterEntry.HoldsToken`, `FilterEntry.GovernedBy`: a token in one of the slots, and the one that settles the
  entry
* `ControlToken.earlier?_eq_some_iff`, `ControlToken.earlier?_comm`: the earlier of two tokens, in either order
* `controlToken?_eq_some_iff`, `controlToken?_eq_none_iff`: **the token that settles an entry is the earliest it
  holds**
* `condition?_of_governedBy`: **such an entry gives the condition of its token**, whatever the column holds
* `Predicate.sql_ne_sql`: **the text of a test that binds a value is not that of a test that binds none**
* `control_tokens_dominate`: all this for an entry, and for a key that names an association
-/

namespace AdminQuery

namespace ControlToken

/-- A token as it is written. -/
def text : ControlToken → String
  | discard => "_discard"
  | blank => "_blank"
  | present => "_present"
  | null => "_null"
  | notNull => "_not_null"
  | empty => "_empty"
  | notEmpty => "_not_empty"

/-- The condition that a token stands for on a column; a discarded filter has none. -/
def fragment? (column : String) : ControlToken → Option Condition
  | discard => none
  | blank => some (.fixed ("(" ++ column ++ " IS NULL OR " ++ column ++ " = '')"))
  | present => some (.fixed ("(" ++ column ++ " IS NOT NULL AND " ++ column ++ " != '')"))
  | null => some (.fixed ("(" ++ column ++ " IS NULL)"))
  | notNull => some (.fixed ("(" ++ column ++ " IS NOT NULL)"))
  | empty => some (.fixed ("(" ++ column ++ " = '')"))
  | notEmpty => some (.fixed ("(" ++ column ++ " != '')"))

/-! ### The earlier of two tokens -/

theorem ofText?_eq_some_iff {s : String} {token : ControlToken} :
    ofText? s = some token ↔ Text.trim s = token.text := by
  rw [ofText?]
  generalize Text.trim s = plain
  split_ifs <;> cases token <;> simp_all [text]

theorem eq_of_rank_eq {a b : ControlToken} (h : a.rank = b.rank) : a = b := by
  cases a <;> cases b <;> first | rfl | cases h

/-- The earlier of two tokens is one of them, and none of them is before it. -/
theorem earlier?_eq_some_iff {a b : Option ControlToken} {token : ControlToken} :
    earlier? a b = some token ↔ (a = some token ∨ b = some token) ∧
      ∀ other, a = some other ∨ b = some other → token.rank ≤ other.rank := by
  cases a with
  | none =>
    rw [earlier?]
    constructor
    · rintro rfl
      exact ⟨.inr rfl, by simp⟩
    · rintro ⟨h | h, -⟩
      · cases h
      · exact h
  | some a =>
    cases b with
    | none =>
      rw [earlier?]
      constructor
      · rintro ⟨⟩
        exact ⟨.inl rfl, by simp⟩
      · rintro ⟨h | h, -⟩
        · exact h
        · cases h
    | some b =>
      simp only [earlier?, Option.some.injEq, or_imp, forall_and, forall_eq']
      split
      · rename_i hlt
        constructor
        · rintro rfl
          exact ⟨.inr rfl, hlt.le, le_rfl⟩
        · rintro ⟨rfl | rfl, -, hle⟩
          · omega
          · rfl
      · rename_i hle
        constructor
        · rintro rfl
          exact ⟨.inl rfl, le_rfl, by omega⟩
        · rintro ⟨rfl | rfl, hle', -⟩
          · rfl
          · exact eq_of_rank_eq (by omega)

/-- Of two tokens the earlier one is taken, in whichever order they come. -/
theorem earlier?_comm (a b : Option ControlToken) : earlier? a b = earlier? b a := by
  ext token
  rw [earlier?_eq_some_iff, earlier?_eq_some_iff]
  simp only [or_comm]

theorem earlier?_eq_none_iff {a b : Option ControlToken} : earlier? a b = none ↔ a = none ∧ b = none := by
  cases a <;> cases b <;> simp [earlier?]

/-- A token that does not discard its filter stands for a condition, which binds no value. -/
theorem exists_fragment {token : ControlToken} (h : token ≠ discard) (column : String) :
    ∃ fragment, token.fragment? column = some fragment ∧ fragment.bindings = [] := by
  cases token with
  | discard => exact absurd rfl h
  | _ => exact ⟨_, rfl, rfl⟩

theorem fragment?_eq (column : String) (token : ControlToken) :
    token.fragment? column = token.predicate?.map fun predicate => Atom.condition ⟨column, predicate⟩ := by
  cases token <;> simp [fragment?, predicate?, Atom.condition, Predicate.sql, Predicate.bindings, Condition.fixed,
    String.append_assoc]

end ControlToken

/-! ### The token that settles an entry -/

namespace FilterEntry

variable {entry : FilterEntry} {token : ControlToken}

/-- The token stands in one of the two slots, blanks around it aside. -/
def HoldsToken (entry : FilterEntry) (token : ControlToken) : Prop :=
  Text.trim entry.value = token.text ∨
    ∃ operator, entry.operator = some operator ∧ Text.trim operator = token.text

/-- The token stands in one of the two slots, and no earlier one does. -/
def GovernedBy (entry : FilterEntry) (token : ControlToken) : Prop :=
  entry.HoldsToken token ∧ ∀ other, entry.HoldsToken other → token.rank ≤ other.rank

theorem holdsToken_iff : entry.HoldsToken token ↔ ControlToken.ofText? entry.value = some token ∨
    entry.operator.bind ControlToken.ofText? = some token := by
  simp only [HoldsToken, Option.bind_eq_some_iff, ControlToken.ofText?_eq_some_iff]

/-- **The token that settles an entry is the earliest it holds.** -/
theorem controlToken?_eq_some_iff : entry.controlToken? = some token ↔ entry.GovernedBy token := by
  simp only [controlToken?, ControlToken.earlier?_eq_some_iff, GovernedBy, holdsToken_iff]

/-- An entry without a token is not settled by one. -/
theorem controlToken?_eq_none_iff : entry.controlToken? = none ↔ ∀ token, ¬entry.HoldsToken token := by
  simp only [controlToken?, ControlToken.earlier?_eq_none_iff, holdsToken_iff, not_or, forall_and,
    ← Option.eq_none_iff_forall_ne_some]

/-- An entry that holds a token is settled by one. -/
theorem HoldsToken.exists_governedBy (h : entry.HoldsToken token) :
    ∃ governing, entry.GovernedBy governing := by
  cases hcontrol : entry.controlToken? with
  | none => exact absurd h (controlToken?_eq_none_iff.1 hcontrol token)
  | some governing => exact ⟨governing, controlToken?_eq_some_iff.1 hcontrol⟩

/-- An entry that is to be discarded is. -/
theorem HoldsToken.governedBy_discard (h : entry.HoldsToken .discard) : entry.GovernedBy .discard :=
  ⟨h, fun other _ => Nat.zero_le other.rank⟩

theorem GovernedBy.unique {other : ControlToken} (h : entry.GovernedBy token) (h' : entry.GovernedBy other) :
    token = other := by
  rw [← controlToken?_eq_some_iff] at h h'
  exact Option.some.inj (h.symm.trans h')

/-- The texts of the two slots may be exchanged. -/
theorem governedBy_swap {operator value : String} :
    (⟨some operator, value⟩ : FilterEntry).GovernedBy token ↔
      (⟨some value, operator⟩ : FilterEntry).GovernedBy token := by
  rw [← controlToken?_eq_some_iff, ← controlToken?_eq_some_iff]
  show ControlToken.earlier? (ControlToken.ofText? value) (ControlToken.ofText? operator) = _ ↔ _
  rw [ControlToken.earlier?_comm]
  rfl

/-- **An entry that holds a token gives the condition of the token that settles it**, whatever the column holds
and whichever way patterns are written. -/
theorem condition?_of_governedBy (h : entry.GovernedBy token) (style : PatternStyle) (column : String)
    (type : StorageType) (now : Instant) :
    entry.condition? style column type now = token.fragment? column := by
  rw [condition?, atom?, predicate?, controlToken?_eq_some_iff.2 h, ControlToken.fragment?_eq, Option.map_map]
  rfl

end FilterEntry

/-! ### Tests that bind values -/

namespace Predicate

variable {p q : Predicate}

theorem suffix_append_literal {ending : List Char} {literal : String} (s : String)
    (h : ending <:+ literal.toList) : ending <:+ (s ++ literal).toList := by
  rw [String.toList_append]
  exact h.trans (List.suffix_append _ _)

/-- A test that binds no value ends with a word of the language or with the empty text. -/
theorem ending_of_bindings_eq_nil (h : q.bindings = []) (column : String) :
    "LL".toList <:+ (q.sql column).toList ∨ "''".toList <:+ (q.sql column).toList := by
  cases q with
  | isNull | isNotNull => exact .inl (suffix_append_literal _ (by decide))
  | isBlank | isPresent | isEmpty | isNotEmpty => exact .inr (suffix_append_literal _ (by decide))
  | _ => cases h

/-- A test that binds a value ends with its placeholder, or with what announces an escaped pattern. -/
theorem ending_of_bindings_ne_nil (h : p.bindings ≠ []) (column : String) :
    ∃ ending ∈ [" ?".toList, "?)".toList, "\\'".toList], ending <:+ (p.sql column).toList := by
  cases p with
  | isNull | isNotNull | isBlank | isPresent | isEmpty | isNotEmpty => exact absurd rfl h
  | matchesPattern dialect escaped pattern =>
    have hplain : ∃ ending ∈ [" ?".toList, "?)".toList], ending <:+ (dialect.patternMatch column).toList := by
      cases dialect with
      | postgres | mysql | sqlite => exact ⟨" ?".toList, by simp, suffix_append_literal _ (by decide)⟩
      | ansi => exact ⟨"?)".toList, by simp, suffix_append_literal _ (by decide)⟩
    by_cases hclause : (if escaped then dialect.escapeClause else "") = ""
    · obtain ⟨ending, hmem, hsuffix⟩ := hplain
      refine ⟨ending, List.mem_append_left ["\\'".toList] hmem, ?_⟩
      rwa [sql, hclause, String.append_empty]
    · refine ⟨"\\'".toList, by simp, suffix_append_literal _ ?_⟩
      cases escaped with
      | false => exact absurd rfl hclause
      | true =>
        cases dialect with
        | mysql => exact absurd rfl hclause
        | postgres | sqlite | ansi => decide
  | equals | isFalse | between | after | before =>
    exact ⟨" ?".toList, by simp, suffix_append_literal _ (by decide)⟩
  | oneOf => exact ⟨"?)".toList, by simp, suffix_append_literal _ (by decide)⟩

/-- Two endings of one length of a text are the same. -/
theorem ending_unique {cs ending other : List Char} (h : ending <:+ cs) (h' : other <:+ cs)
    (hlength : ending.length = other.length) : ending = other :=
  (List.suffix_of_suffix_length_le h h' hlength.le).eq_of_length hlength

/-- **The text of a test that binds a value is not that of a test that binds none**, whatever the columns are
called. -/
theorem sql_ne_sql (hp : p.bindings ≠ []) (hq : q.bindings = []) (column other : String) :
    p.sql column ≠ q.sql other := by
  intro hsame
  obtain ⟨ending, hmem, hending⟩ := ending_of_bindings_ne_nil hp column
  rw [hsame] at hending
  simp only [List.mem_cons, List.not_mem_nil, or_false] at hmem
  rcases ending_of_bindings_eq_nil hq other with hfixed | hfixed <;>
    rcases hmem with rfl | rfl | rfl <;>
    exact absurd (ending_unique hending hfixed rfl) (by decide)

theorem bindings_of_controlToken {token : ControlToken} (h : token.predicate? = some q) : q.bindings = [] := by
  cases token <;> cases h <;> rfl

end Predicate

/-- The test of a column against days binds instants. -/
theorem TemporalOperator.bindings_of_predicate? {op : TemporalOperator} {value : String} {now : Instant}
    {p : Predicate} (h : op.predicate? value now = some p) : p.bindings ≠ [] := by
  rcases predicate?_cases h with ⟨first, last, -, rfl⟩ | ⟨t, rfl | rfl⟩ <;> exact List.cons_ne_nil _ _

namespace FilterEntry

variable {entry : FilterEntry} {style : PatternStyle} {column : String} {type : StorageType} {now : Instant}

/-- The test that a value asks for binds it. -/
theorem bindings_of_valuePredicate? {p : Predicate} (h : entry.valuePredicate? style type now = some p) :
    p.bindings ≠ [] := by
  rw [valuePredicate?.eq_def] at h
  cases type with
  | string | text =>
    simp only [PatternStyle.predicate?, Option.ite_none_left_eq_some, Option.some.injEq] at h
    obtain ⟨-, rfl⟩ := h
    simp [Predicate.bindings]
  | boolean =>
    simp only [Predicate.ofTruthText?] at h
    split_ifs at h <;> cases h <;> simp [Predicate.bindings]
  | integer =>
    obtain ⟨n, -, rfl⟩ := Option.map_eq_some_iff.1 h
    simp [Predicate.bindings]
  | float | decimal =>
    obtain ⟨x, -, rfl⟩ := Option.map_eq_some_iff.1 h
    simp [Predicate.bindings]
  | enum =>
    cases h
    simp [Predicate.bindings]
  | date | datetime | timestamp => exact TemporalOperator.bindings_of_predicate? h
  | binary => cases h

/-- **Without a token the condition of an entry binds a value**, and its text is that of no token. -/
theorem condition?_ne_fragment (h : ∀ token, ¬entry.HoldsToken token) {c : Condition}
    (hc : entry.condition? style column type now = some c) :
    c.bindings ≠ [] ∧ ∀ (token : ControlToken) (fragment : Condition),
      token.fragment? column = some fragment → c.sql ≠ fragment.sql := by
  rw [condition?, atom?, predicate?, controlToken?_eq_none_iff.2 h] at hc
  obtain ⟨atom, hatom, rfl⟩ := Option.map_eq_some_iff.1 hc
  obtain ⟨p, hp, rfl⟩ := Option.map_eq_some_iff.1 hatom
  have hbinds := bindings_of_valuePredicate? hp
  refine ⟨hbinds, fun token fragment hfragment hsame => ?_⟩
  rw [ControlToken.fragment?_eq] at hfragment
  obtain ⟨q, hq, rfl⟩ := Option.map_eq_some_iff.1 hfragment
  refine Predicate.sql_ne_sql hbinds (Predicate.bindings_of_controlToken hq) column column ?_
  simpa [Atom.condition, String.append_left_inj, String.append_right_inj] using hsame

end FilterEntry

/-! ### Keys that name an association -/

namespace Environment

variable {env : Environment} {record : RecordType} {associations : List Association} {a : Association}

/-- A group that a token settles gives the token's condition on each column of its key. -/
theorem forall₂_groupAtoms {entry : FilterEntry} {token : ControlToken} (h : entry.GovernedBy token)
    (hkept : token ≠ .discard) (slots : List Slot) (now : Instant) :
    List.Forall₂ (fun column atom => token.fragment? column = some (Atom.condition atom))
      (slots.map Slot.column) (env.groupAtoms slots entry now) := by
  have hcondition (slot : Slot) :
      (entry.atom? env.config.patternStyle slot.column slot.type now).map Atom.condition =
        token.fragment? slot.column :=
    FilterEntry.condition?_of_governedBy h env.config.patternStyle slot.column slot.type now
  have hatom (slot : Slot) :
      ∃ atom, entry.atom? env.config.patternStyle slot.column slot.type now = some atom := by
    obtain ⟨fragment, hfragment, -⟩ := token.exists_fragment hkept slot.column
    rw [← hcondition, Option.map_eq_some_iff] at hfragment
    obtain ⟨atom, hatom, -⟩ := hfragment
    exact ⟨atom, hatom⟩
  rw [List.forall₂_map_left_iff]
  apply (forall₂_filterMap hatom slots).imp
  intro slot atom hslot
  rw [← hcondition, hslot, Option.map_some]

/-- A key that names an association stands for its label, if it has one, and for its key column. -/
theorem exists_filterTarget_parent (hok : env.associations record = .ok associations) {key : String}
    (hcolumn : ¬env.HasColumn record key) (hdot : '.' ∉ key.toList)
    (hfound : (associations.find? fun b => b.name = key && b.kind = .belongsTo) = some a)
    {label : Option String} (hlabel : env.labelColumn? record a = .ok label) :
    ∃ slots, env.filterTarget record key = .ok slots ∧
      slots.map Slot.column = label.toList ++ [record.qualified a.childKey] := by
  rw [filterTarget_parent hok hcolumn hdot hfound, hlabel]
  refine ⟨_, rfl, ?_⟩
  cases label <;> rfl

end Environment

/-- **Control tokens come before everything else.**  An entry with a token in a slot gives the same whatever the
column holds, whichever store it is for and however patterns are written, and with the texts of its two slots
exchanged.  That is nothing if one of the tokens is to discard it, and the condition of the earlier token
otherwise, which binds no value.  Without a token in a slot the condition is that of no token, in its text as in
its values.  A key that names an association gives the condition of a token on its label, if it has one, and on
its key column, whatever that holds. -/
theorem control_tokens_dominate (entry : FilterEntry) (now : Instant) :
    (∀ token, entry.HoldsToken token → ∀ column,
      (∀ style other type kind,
        entry.condition? style column type now = entry.condition? other column kind now) ∧
      (∀ operator, entry.operator = some operator → ∀ style type,
        entry.condition? style column type now =
          (⟨some entry.value, operator⟩ : FilterEntry).condition? style column type now) ∧
      (entry.HoldsToken .discard → ∀ style type, entry.condition? style column type now = none) ∧
      (¬entry.HoldsToken .discard → ∃ governing fragment, entry.GovernedBy governing ∧
        governing.fragment? column = some fragment ∧ fragment.bindings = [] ∧
        ∀ style type, entry.condition? style column type now = some fragment)) ∧
    ((∀ token, ¬entry.HoldsToken token) → ∀ style column type c,
      entry.condition? style column type now = some c →
      c.bindings ≠ [] ∧ ∀ (token : ControlToken) (fragment : Condition),
        token.fragment? column = some fragment → c.sql ≠ fragment.sql) ∧
    ∀ governing, entry.GovernedBy governing → governing ≠ .discard →
      ∀ (env : Environment) record associations, env.associations record = .ok associations →
      ∀ key, ¬env.HasColumn record key → '.' ∉ key.toList →
      ∀ a, (associations.find? fun b => b.name = key && b.kind = .belongsTo) = some a →
      ∀ label, env.labelColumn? record a = .ok label →
      ∃ slots, env.filterTarget record key = .ok slots ∧
        (∀ groups, env.fieldAtoms record ⟨key, groups⟩ now =
          .ok (groups.flatMap fun group => env.groupAtoms slots group.2 now)) ∧
        List.Forall₂ (fun column atom => governing.fragment? column = some (Atom.condition atom))
          (label.toList ++ [record.qualified a.childKey]) (env.groupAtoms slots entry now) := by
  refine ⟨fun token htoken column => ?_, fun hnone style column type c => FilterEntry.condition?_ne_fragment hnone, ?_⟩
  · obtain ⟨governing, hgoverning⟩ := htoken.exists_governedBy
    have hcondition := fun style type => FilterEntry.condition?_of_governedBy hgoverning style column type now
    refine ⟨fun style other type kind => ?_, fun operator hoperator style type => ?_, fun hdiscard style type => ?_,
      fun hkept => ?_⟩
    · rw [hcondition, hcondition]
    · obtain ⟨_, value⟩ := entry
      obtain rfl := hoperator
      rw [hcondition, FilterEntry.condition?_of_governedBy (FilterEntry.governedBy_swap.1 hgoverning)]
    · rw [hcondition, hgoverning.unique hdiscard.governedBy_discard]
      rfl
    · have hne : governing ≠ .discard := by
        rintro rfl
        exact hkept hgoverning.1
      obtain ⟨fragment, hfragment, hbindings⟩ := ControlToken.exists_fragment hne column
      exact ⟨governing, fragment, hgoverning, hfragment, hbindings,
        fun style type => (hcondition style type).trans hfragment⟩
  · intro governing hgoverning hkept env record associations hok key hcolumn hdot a hfound label hlabel
    obtain ⟨slots, htarget, hslots⟩ := Environment.exists_filterTarget_parent hok hcolumn hdot hfound hlabel
    refine ⟨slots, htarget, fun groups => Environment.fieldAtoms_of_filterTarget htarget groups now, ?_⟩
    rw [← hslots]
    exact Environment.forall₂_groupAtoms hgoverning hkept slots now

namespace Staff

/-- Two tokens, of which the one in the slot of the operator is the earlier. -/
def settled : FilterEntry :=
  ⟨some "\t_present", "_null\n"⟩

/-- An entry without tokens. -/
def unsettled : FilterEntry :=
  ⟨some "starts_with", "_nul"⟩

end Staff

open Staff in
/-- Two tokens settle a filter on a column of bytes and on an association, from either slot; what is no token is
matched. -/
theorem control_tokens_dominate_staff :
    settled.HoldsToken .null ∧ settled.GovernedBy .present ∧ ¬settled.HoldsToken .discard ∧
    (∀ style type, settled.condition? style "employees.photo" type ⟨0, 0⟩ =
      some ⟨"(employees.photo IS NOT NULL AND employees.photo != '')", []⟩) ∧
    (∀ style type, settled.condition? style "employees.photo" type ⟨0, 0⟩ =
      (⟨some "_null\n", "\t_present"⟩ : FilterEntry).condition? style "employees.photo" type ⟨0, 0⟩) ∧
    environment.associations employee.recordType = .ok held ∧
    ¬environment.HasColumn employee.recordType "department" ∧
    environment.labelColumn? employee.recordType workplace = .ok (some "departments.title") ∧
    (∃ slots, environment.filterTarget employee.recordType "department" = .ok slots ∧
      List.Forall₂ (fun column atom =>
        ControlToken.fragment? column .present = some (Atom.condition atom))
        ["departments.title", "employees.department_id"] (environment.groupAtoms slots settled ⟨0, 0⟩)) ∧
    (∀ token, ¬unsettled.HoldsToken token) ∧
    unsettled.condition? ⟨.ansi, true⟩ "employees.name" .text ⟨0, 0⟩ =
      some ⟨"(LOWER(employees.name) LIKE LOWER(?) ESCAPE '\\')", [.text "\\_nul%"]⟩ ∧
    ∀ (token : ControlToken) (fragment : Condition), token.fragment? "employees.name" = some fragment →
      "(LOWER(employees.name) LIKE LOWER(?) ESCAPE '\\')" ≠ fragment.sql := by
  have hgoverned : settled.GovernedBy .present := FilterEntry.controlToken?_eq_some_iff.1 (by decide)
  have hholds : settled.HoldsToken .null := .inl (by decide)
  have hkept : ¬settled.HoldsToken .discard := fun h =>
    absurd (hgoverned.unique h.governedBy_discard) (by decide)
  have hnone : ∀ token, ¬unsettled.HoldsToken token := FilterEntry.controlToken?_eq_none_iff.1 (by decide)
  have hmatched : unsettled.condition? ⟨.ansi, true⟩ "employees.name" .text ⟨0, 0⟩ =
      some ⟨"(LOWER(employees.name) LIKE LOWER(?) ESCAPE '\\')", [.text "\\_nul%"]⟩ := by decide +kernel
  have hok : environment.associations employee.recordType = .ok held := by decide +kernel
  have hcolumn : ¬environment.HasColumn employee.recordType "department" :=
    Environment.columnSlot?_eq_none_iff.1 (by decide +kernel)
  have hfound : (held.find? fun b => b.name = "department" && b.kind = .belongsTo) = some workplace := by
    decide +kernel
  have hlabel : environment.labelColumn? employee.recordType workplace = .ok (some "departments.title") := by
    decide +kernel
  obtain ⟨htokens, -, hparent⟩ := control_tokens_dominate settled ⟨0, 0⟩
  obtain ⟨-, hswap, -, hfragment⟩ := htokens .null hholds "employees.photo"
  obtain ⟨governing, fragment, hgoverning, hsome, -, hcondition⟩ := hfragment hkept
  obtain rfl := hgoverned.unique hgoverning
  cases hsome
  obtain ⟨slots, htarget, -, hatoms⟩ := hparent .present hgoverned (by decide) environment employee.recordType held
    hok "department" hcolumn (by decide) workplace hfound _ hlabel
  obtain ⟨-, hplain, -⟩ := control_tokens_dominate unsettled ⟨0, 0⟩
  exact ⟨hholds, hgoverned, hkept, hcondition, hswap _ rfl, hok, hcolumn, hlabel, ⟨slots, htarget, hatoms⟩, hnone,
    hmatched, (hplain hnone _ _ _ _ hmatched).2⟩

end AdminQuery
