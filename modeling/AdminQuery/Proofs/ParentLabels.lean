import AdminQuery.Proofs.DeclarationChecks
import AdminQuery.Proofs.SearchColumns

/-!
# Labels in filters and in searches

A filter that names an association and a search both ask for the label of the type that a record type belongs to.
The filter asks for the key column too.

* `Config.ofText?_searchOperator`: the search operator is no control token
* `SharesTable`: an association that leads to a type in the table of its owner
* `find?_belongsTo`, `fieldAtoms_parent`: what a key that names an association asks for
* `labels_agree`: **filters and searches ask for the same label, with the same match**
-/

namespace AdminQuery

/-- The search operator of a configuration that passes is no control token. -/
theorem Config.ofText?_searchOperator {config : Config} (h : config.validate = .ok config) :
    ControlToken.ofText? config.searchOperator = none := by
  have hknown := (validate_eq_ok_iff.1 h).2.1
  rw [MatchPosition.isKnown, MatchPosition.knownTokens, List.contains_iff_mem] at hknown
  simp only [List.mem_cons, List.not_mem_nil, or_false] at hknown
  rw [ControlToken.ofText?]
  rcases hknown with hplain | hplain | hplain | hplain | hplain | hplain <;> rw [hplain] <;> rfl

namespace Environment

variable {env : Environment} {record : RecordType} {associations : List Association} {a : Association}

/-- The type on the far side of `a` is kept in the table of `record`. -/
def SharesTable (env : Environment) (record : RecordType) (a : Association) : Prop :=
  ∃ related, env.Reaches a related ∧ related.tableName = record.tableName

/-- Neither a polymorphic association nor one into the table of its owner leads to a label. -/
theorem not_labelled {column : String} (h : a.isPolymorphic = true ∨ env.SharesTable record a) :
    ¬env.Labelled record a column := by
  rintro ⟨-, hplain, hparent, htable, -⟩
  rcases h with h | ⟨related, hrelated, hsame⟩
  · rw [hplain] at h
    cases h
  · obtain rfl := hparent.unique hrelated
    exact htable hsame

/-! ### Keys that name an association -/

/-- Where names are distinct, an association is found by its name. -/
theorem find?_belongsTo (hnames : (associations.map Association.name).Nodup) (ha : a ∈ associations)
    (hkind : a.kind = .belongsTo) :
    (associations.find? fun b => b.name = a.name && b.kind = .belongsTo) = some a := by
  cases hfound : associations.find? fun b => b.name = a.name && b.kind = .belongsTo with
  | none =>
    have hnot := List.find?_eq_none.1 hfound a ha
    simp [hkind] at hnot
  | some b =>
    have hname : b.name = a.name ∧ b.kind = .belongsTo := by simpa using List.find?_some hfound
    rw [List.inj_on_of_nodup_map hnames (List.mem_of_find?_eq_some hfound) ha hname.1]

/-- A key that names an association stands for its label, if it has one, and for its key column. -/
theorem filterTarget_parent (hok : env.associations record = .ok associations) {key : String}
    (hcolumn : ¬env.HasColumn record key) (hdot : '.' ∉ key.toList)
    (hfound : (associations.find? fun b => b.name = key && b.kind = .belongsTo) = some a) :
    env.filterTarget record key = (env.labelColumn? record a).map fun label =>
      (label.map fun column => ⟨column, .string⟩).toList ++
        [⟨record.qualified a.childKey, env.keyType record a.childKey⟩] := by
  rw [filterTarget, columnSlot?_eq_none_iff.2 hcolumn, hok, splitDot?_eq_none_iff.2 hdot]
  show env.parentSlots record associations key = _
  simp only [parentSlots, hfound]
  cases env.labelColumn? record a <;> rfl

theorem filterCondition_singleton (filter : FieldGroups) (now : Instant) :
    env.filterCondition record ⟨[filter]⟩ now =
      (env.fieldAtoms record filter now).map fun atoms => .ofClauses [atoms] := by
  rw [filterCondition, filterClauses, List.mapM_cons, List.mapM_nil]
  cases env.fieldAtoms record filter now <;> rfl

theorem groupAtoms_append (slots others : List Slot) (entry : FilterEntry) (now : Instant) :
    env.groupAtoms (slots ++ others) entry now =
      env.groupAtoms slots entry now ++ env.groupAtoms others entry now :=
  List.filterMap_append

theorem groupAtoms_singleton (slot : Slot) (entry : FilterEntry) (now : Instant) :
    env.groupAtoms [slot] entry now =
      (entry.atom? env.config.patternStyle slot.column slot.type now).toList := by
  rw [groupAtoms, List.filterMap_cons]
  cases entry.atom? env.config.patternStyle slot.column slot.type now <;> rfl

/-- A group asks an association for its label by the pattern that a search asks for. -/
theorem fieldAtoms_parent (hok : env.associations record = .ok associations)
    (hcolumn : ¬env.HasColumn record a.name) (hdot : '.' ∉ a.name.toList)
    (hfound : (associations.find? fun b => b.name = a.name && b.kind = .belongsTo) = some a)
    {value : String} (hblank : Text.isAllBlank value = false) (hvalue : ControlToken.ofText? value = none)
    (hoperator : ControlToken.ofText? env.config.searchOperator = none) (group : String) (now : Instant) :
    env.fieldAtoms record ⟨a.name, [(group, ⟨some env.config.searchOperator, value⟩)]⟩ now =
      (env.labelColumn? record a).map fun label =>
        (label.map fun column => ⟨column, env.config.termPredicate value⟩).toList ++
          ((⟨some env.config.searchOperator, value⟩ : FilterEntry).atom? env.config.patternStyle
            (record.qualified a.childKey) (env.keyType record a.childKey) now).toList := by
  rw [fieldAtoms, filterTarget_parent hok hcolumn hdot hfound]
  cases env.labelColumn? record a with
  | error e => rfl
  | ok label =>
    have hlabel : env.groupAtoms (label.map fun column => ⟨column, .string⟩).toList
        ⟨some env.config.searchOperator, value⟩ now =
          (label.map fun column => ⟨column, env.config.termPredicate value⟩).toList := by
      cases label with
      | none => rfl
      | some column =>
        rw [Option.map_some, Option.toList_some, groupAtoms_singleton,
          atom?_eq_termPredicate hblank hvalue hoperator rfl]
        rfl
    show Except.ok _ = Except.ok _
    rw [List.flatMap_singleton, groupAtoms_append, groupAtoms_singleton, hlabel]

end Environment

/-- **Filters and searches ask for the same label, with the same match.**  A filter that names an association by the
search operator asks for its label first and for its key column second.  There is a label exactly where the
association leads to one type, in another table, that has one; a search looks into the same column, and matches it
against the same pattern.  Otherwise, as for a polymorphic association or one into the table of its owner, nothing
but the key column is asked for.  The key column is told apart from the label by its place, since it may hold text
as well. -/
theorem labels_agree {env : Environment} (hconfig : env.config.validate = .ok env.config)
    (hused : env.config.searchBelongsTo = true) {record : RecordType} {associations : List Association}
    (hok : env.associations record = .ok associations)
    (hnames : (associations.map Association.name).Nodup) {a : Association} (ha : a ∈ associations)
    (hkind : a.kind = .belongsTo) (hdot : '.' ∉ a.name.toList) (hcolumn : ¬env.HasColumn record a.name)
    {value : String} (hblank : Text.isAllBlank value = false) (hvalue : ControlToken.ofText? value = none)
    {group : String} {now : Instant} {c d : Condition}
    (hfilter : env.filterCondition record
      ⟨[⟨a.name, [(group, ⟨some env.config.searchOperator, value⟩)]⟩]⟩ now = .ok c)
    (hsearch : env.searchCondition record value = .ok d) :
    ∃ (label : Option String) (key : Option Atom) (columns : List String),
      env.searchColumns record = .ok columns ∧
      c = .ofClauses [(label.map fun column => ⟨column, env.config.termPredicate value⟩).toList ++
        key.toList] ∧
      d = .ofAlternatives (columns.map fun column => ⟨column, env.config.termPredicate value⟩) ∧
      (∀ column, label = some column ↔ env.Labelled record a column) ∧
      (∀ column, label = some column → column ∈ columns) ∧
      (∀ column, column ∈ columns ↔ column ∈ env.ownSearchColumns record ∨
        ∃ b ∈ associations, env.Labelled record b column) ∧
      (∀ atom, key = some atom → atom.column = record.qualified a.childKey) ∧
      (a.isPolymorphic = true ∨ env.SharesTable record a → label = none) := by
  have hoperator := Config.ofText?_searchOperator hconfig
  have hfound := Environment.find?_belongsTo hnames ha hkind
  -- What the filter asks for.
  rw [Environment.filterCondition_singleton, Environment.fieldAtoms_parent hok hcolumn hdot hfound hblank hvalue
    hoperator] at hfilter
  obtain ⟨atoms, hatoms, rfl⟩ := Fallible.map_eq_ok_iff.1 hfilter
  obtain ⟨label, hlabel, rfl⟩ := Fallible.map_eq_ok_iff.1 hatoms
  have hlabelled (column : String) : label = some column ↔ env.Labelled record a column := by
    rw [← Environment.searchLabel?_eq_ok_some_iff ⟨associations, hok, ha⟩, Environment.searchLabel?,
      if_pos hkind, hlabel, Except.ok.injEq]
  -- What the search looks into.
  rw [Environment.searchCondition, Environment.searchAtoms_eq_map hblank] at hsearch
  obtain ⟨atoms, hatoms, rfl⟩ := Fallible.map_eq_ok_iff.1 hsearch
  obtain ⟨columns, hcolumns, rfl⟩ := Fallible.map_eq_ok_iff.1 hatoms
  obtain ⟨labels, hlabels, heq⟩ := Environment.searchLabels_of_searchColumns hcolumns
  have hmem (column : String) : column ∈ columns ↔ column ∈ env.ownSearchColumns record ∨
      ∃ b ∈ associations, env.Labelled record b column := by
    rw [heq, Environment.mem_foldl_addColumn_iff, hlabels.mem_iff hused hok]
  refine ⟨label, _, columns, hcolumns, rfl, rfl, hlabelled, fun column h => ?_, hmem, fun atom h => ?_, fun h => ?_⟩
  · exact (hmem column).2 (.inr ⟨a, ha, (hlabelled column).1 h⟩)
  · obtain ⟨predicate, -, rfl⟩ := Option.map_eq_some_iff.1 h
    rfl
  · rw [Option.eq_none_iff_forall_ne_some]
    intro column hsome
    exact Environment.not_labelled h ((hlabelled column).1 hsome)

namespace Staff

/-- Both types with the settings where nothing is said. -/
def environment : Environment :=
  catalog.environment .default

/-- The associations of an employee, all of which hold their key. -/
def held : List Association :=
  employee.relationships.map fun decl => environment.describeBelongsTo employee.recordType decl

/-- The department that an employee works in. -/
def workplace : Association :=
  environment.describeBelongsTo employee.recordType employee.relationships[1]

end Staff

open Staff in
/-- Departments are found by their title, in a filter that names them and in a search. -/
theorem labels_agree_staff :
    Config.default.validate = .ok .default ∧ Config.default.searchBelongsTo = true ∧
    environment.associations employee.recordType = .ok held ∧ (held.map Association.name).Nodup ∧
    workplace ∈ held ∧ workplace.kind = .belongsTo ∧ '.' ∉ workplace.name.toList ∧
    ¬environment.HasColumn employee.recordType workplace.name ∧
    Text.isAllBlank "7" = false ∧ ControlToken.ofText? "7" = none ∧
    environment.filterCondition employee.recordType ⟨[⟨"department", [("0", ⟨some "default", "7"⟩)]⟩]⟩
      ⟨0, 0⟩ = .ok ⟨"((departments.title LIKE ?) OR (employees.department_id = ?))",
        [.text "%7%", .integer 7]⟩ ∧
    environment.searchCondition employee.recordType "7" =
      .ok ⟨"(employees.name LIKE ?) OR (departments.title LIKE ?)", [.text "%7%", .text "%7%"]⟩ ∧
    ∃ columns, environment.searchColumns employee.recordType = .ok columns ∧
      environment.Labelled employee.recordType workplace "departments.title" ∧
      "departments.title" ∈ columns := by
  have hconfig : Config.default.validate = .ok .default := by decide +kernel
  have hok : environment.associations employee.recordType = .ok held := by decide +kernel
  have hnames : (held.map Association.name).Nodup := by decide +kernel
  have hmem : workplace ∈ held := List.mem_of_getElem? (i := 1) rfl
  have hcolumn : ¬environment.HasColumn employee.recordType workplace.name :=
    Environment.columnSlot?_eq_none_iff.1 (by decide +kernel)
  have hlabelled : environment.Labelled employee.recordType workplace "departments.title" :=
    (Environment.searchLabel?_eq_ok_some_iff ⟨held, hok, hmem⟩).1 (by decide +kernel)
  have hfilter : environment.filterCondition employee.recordType
      ⟨[⟨workplace.name, [("0", ⟨some "default", "7"⟩)]⟩]⟩ ⟨0, 0⟩ =
        .ok ⟨"((departments.title LIKE ?) OR (employees.department_id = ?))",
          [.text "%7%", .integer 7]⟩ := by decide +kernel
  have hsearch : environment.searchCondition employee.recordType "7" =
      .ok ⟨"(employees.name LIKE ?) OR (departments.title LIKE ?)", [.text "%7%", .text "%7%"]⟩ := by
    decide +kernel
  obtain ⟨label, -, columns, hcolumns, -, -, hlabel, hsame, -⟩ :=
    labels_agree hconfig rfl hok hnames hmem rfl (by decide) hcolumn (by decide) (by decide) hfilter hsearch
  exact ⟨hconfig, rfl, hok, hnames, hmem, rfl, by decide, hcolumn, by decide, by decide, hfilter, hsearch,
    columns, hcolumns, hlabelled, hsame _ ((hlabel _).2 hlabelled)⟩

end AdminQuery
