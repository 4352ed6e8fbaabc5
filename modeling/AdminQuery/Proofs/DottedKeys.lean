import AdminQuery.Proofs.FilterConcatenation
import AdminQuery.Proofs.ParentLabels
import AdminQuery.Proofs.Placeholders

/-!
# Keys with a dot

What stands in front of the dot names an association, and what stands behind it a column of the type on its far
side.  Such a key is read as the column is read in a filter of that type.

* `WellFormed.not_hasColumn_dotted`: no column of a catalog has a dot in its name
* `filterTarget_dotted`, `filterTarget_of_leadsToNoColumn`: what a key with a dot stands for
* `dotted_keys_filter_related_types`: **a key with a dot filters the related type**
* `filterTarget_of_sharesTable`, `fieldAtoms_on_column`: the columns that an association into the table of its
  owner is asked for
* `keys_into_own_table`: **by its name it tests its key, behind a dot it tests the columns of its owner**
* `dotted_key_tests_owner_staff`: the name of a manager is looked for among the names of all employees
-/

namespace AdminQuery

/-! ### Columns of a catalog -/

namespace Catalog

theorem WellFormed.isIdentifier_of_mem_columns {catalog : Catalog} (h : catalog.WellFormed)
    {record : RecordType} {column : Column} (hc : column ∈ catalog.schema.columns record) :
    Text.isIdentifier column.name = true := by
  simp only [schema] at hc
  cases hfound : catalog.get? record.name with
  | none =>
    rw [hfound] at hc
    cases hc
  | some decl =>
    rw [hfound] at hc
    exact h.isIdentifier_column ⟨decl, List.mem_of_find?_eq_some hfound, rfl, hc⟩

/-- **No column has a dot in its name**, so no column takes a key with a dot. -/
theorem WellFormed.not_hasColumn_dotted {catalog : Catalog} (h : catalog.WellFormed) (config : Config)
    (record : RecordType) (name column : String) :
    ¬(catalog.environment config).HasColumn record (name ++ "." ++ column) := by
  rintro ⟨held, hheld, heq⟩
  have hidentifier := h.isIdentifier_of_mem_columns hheld
  rw [heq] at hidentifier
  have hdot := Text.isIdentifierRest_of_mem hidentifier (c := '.') (by simp)
  revert hdot
  decide

end Catalog

namespace Environment

variable {env : Environment} {record related : RecordType} {associations : List Association} {a : Association}

/-! ### What a key with a dot stands for -/

/-- A key with a dot leads to no column: no association has the name in front of the dot, or the first one of
this name is polymorphic, or it reaches a type without such a column. -/
inductive LeadsToNoColumn (env : Environment) (associations : List Association) (name column : String) :
    Prop where
  | unknown : name ∉ associations.map Association.name → LeadsToNoColumn env associations name column
  | polymorphic {a : Association} :
    (associations.find? fun b => b.name = name) = some a → a.isPolymorphic = true →
    LeadsToNoColumn env associations name column
  | absent {a : Association} {related : RecordType} :
    (associations.find? fun b => b.name = name) = some a → env.Reaches a related →
    ¬env.HasColumn related column → LeadsToNoColumn env associations name column

theorem filterTarget_eq_relatedSlots (hok : env.associations record = .ok associations)
    {name column : String} (hcolumn : ¬env.HasColumn record (name ++ "." ++ column))
    (hdot : '.' ∉ name.toList) :
    env.filterTarget record (name ++ "." ++ column) = env.relatedSlots associations name column := by
  rw [filterTarget, columnSlot?_eq_none_iff.2 hcolumn, hok, splitDot?_eq_some_iff.2 ⟨rfl, hdot⟩]
  rfl

/-- A key with a dot stands for a column of the type that the association in front of the dot reaches. -/
theorem filterTarget_dotted (hok : env.associations record = .ok associations) {name column : String}
    (hcolumn : ¬env.HasColumn record (name ++ "." ++ column)) (hdot : '.' ∉ name.toList)
    (hfound : (associations.find? fun b => b.name = name) = some a) (hreaches : env.Reaches a related) :
    env.filterTarget record (name ++ "." ++ column) = .ok (env.columnSlot? related column).toList := by
  obtain ⟨reference, htarget, hresolve⟩ := hreaches
  rw [filterTarget_eq_relatedSlots hok hcolumn hdot, relatedSlots, hfound, Option.bind_some, htarget]
  show (reference.resolve env.registry >>= fun related => pure (env.columnSlot? related column).toList) = _
  rw [hresolve]
  rfl

/-- **A key that leads to no column stands for nothing.** -/
theorem filterTarget_of_leadsToNoColumn (hok : env.associations record = .ok associations)
    {name column : String} (hcolumn : ¬env.HasColumn record (name ++ "." ++ column))
    (hdot : '.' ∉ name.toList) (h : env.LeadsToNoColumn associations name column) :
    env.filterTarget record (name ++ "." ++ column) = .ok [] := by
  cases h with
  | unknown hunknown =>
    have hnone : (associations.find? fun b => b.name = name) = none := by
      simpa [List.find?_eq_none] using hunknown
    rw [filterTarget_eq_relatedSlots hok hcolumn hdot, relatedSlots, hnone]
    rfl
  | @polymorphic a hfound hpolymorphic =>
    have htarget : a.target? = none := by
      rw [Option.eq_none_iff_forall_ne_some]
      intro reference hreference
      have ha : env.HasAssociation record a := ⟨associations, hok, List.mem_of_find?_eq_some hfound⟩
      rw [ha.isPolymorphic_of_target? hreference] at hpolymorphic
      cases hpolymorphic
    rw [filterTarget_eq_relatedSlots hok hcolumn hdot, relatedSlots, hfound, Option.bind_some, htarget]
  | absent hfound hreaches habsent =>
    rw [filterTarget_dotted hok hcolumn hdot hfound hreaches, columnSlot?_eq_none_iff.2 habsent]
    rfl

theorem exists_filterTarget_of_hasColumn {key : String} (h : env.HasColumn record key) :
    ∃ slot, env.columnSlot? record key = some slot ∧ env.filterTarget record key = .ok [slot] := by
  obtain ⟨slot, hslot⟩ := exists_columnSlot?_iff.2 h
  refine ⟨slot, hslot, ?_⟩
  rw [filterTarget, hslot]

/-- Keys that stand for the same columns ask for the same, whatever their groups are. -/
theorem filterCondition_congr {key other : String} {slots : List Slot}
    (h : env.filterTarget record key = .ok slots) (h' : env.filterTarget related other = .ok slots)
    (groups : List (String × FilterEntry)) (now : Instant) :
    ∃ c, env.filterCondition record ⟨[⟨key, groups⟩]⟩ now = .ok c ∧
      env.filterCondition related ⟨[⟨other, groups⟩]⟩ now = .ok c := by
  rw [filterCondition_singleton, filterCondition_singleton, fieldAtoms_of_filterTarget h,
    fieldAtoms_of_filterTarget h']
  exact ⟨_, rfl, rfl⟩

end Environment

/-- **A key with a dot filters the related type.**  Where the first association of the name in front of the dot
reaches a type with the column behind it, the key asks for what the column asks for in a filter of this type.
Where there is no such association, where it is polymorphic or its type has no such column, the key can be left
out. -/
theorem dotted_keys_filter_related_types {catalog : Catalog} (h : catalog.Reachable) (config : Config)
    {record : RecordType} {associations : List Association}
    (hok : (catalog.environment config).associations record = .ok associations) (name : String)
    (hdot : '.' ∉ name.toList) (column : String) (groups : List (String × FilterEntry)) (now : Instant) :
    (∀ a related, (associations.find? fun b => b.name = name) = some a →
      (catalog.environment config).Reaches a related →
      (catalog.environment config).HasColumn related column →
      ∃ c, (catalog.environment config).filterCondition record ⟨[⟨name ++ "." ++ column, groups⟩]⟩ now =
          .ok c ∧
        (catalog.environment config).filterCondition related ⟨[⟨column, groups⟩]⟩ now = .ok c) ∧
    ((catalog.environment config).LeadsToNoColumn associations name column →
      ∀ front back, (catalog.environment config).filterCondition record
          ⟨front ++ ⟨name ++ "." ++ column, groups⟩ :: back⟩ now =
        (catalog.environment config).filterCondition record ⟨front ++ back⟩ now) := by
  -- No column of the owner takes the key before it is cut at the dot.
  have hcolumn := h.wellFormed.not_hasColumn_dotted config record name column
  constructor
  · intro a related hfound hreaches hrelated
    obtain ⟨slot, hslot, htarget⟩ := Environment.exists_filterTarget_of_hasColumn hrelated
    have hdotted := Environment.filterTarget_dotted hok hcolumn hdot hfound hreaches
    rw [hslot, Option.toList_some] at hdotted
    exact Environment.filterCondition_congr hdotted htarget groups now
  · intro hnone front back
    have hdotted := Environment.filterTarget_of_leadsToNoColumn hok hcolumn hdot hnone
    refine Environment.filterCondition_erase_key (Environment.keyCondition_eq_always_iff.2 ?_) front back
    rw [Environment.fieldAtoms_of_filterTarget hdotted]
    simp [Environment.groupAtoms]

namespace Staff

/-- Whatever is called Sales. -/
def titled : List (String × FilterEntry) :=
  [("0", ⟨some "is", "Sales"⟩)]

end Staff

open Staff in
/-- Employees are found by the title of their department as departments are by their title; what is asked of a
column that departments lack, of a desk or of an unknown association is skipped. -/
theorem dotted_keys_filter_related_types_staff :
    catalog.Reachable ∧ environment.associations employee.recordType = .ok held ∧
    '.' ∉ "department".toList ∧ (held.find? fun b => b.name = "department") = some workplace ∧
    environment.Reaches workplace department.recordType ∧
    environment.HasColumn department.recordType "title" ∧
    environment.LeadsToNoColumn held "department" "floor" ∧
    environment.LeadsToNoColumn held "desk" "title" ∧ environment.LeadsToNoColumn held "office" "title" ∧
    environment.filterCondition employee.recordType ⟨[⟨"department.title", titled⟩]⟩ ⟨0, 0⟩ =
      .ok ⟨"((departments.title LIKE ?))", [.text "Sales"]⟩ ∧
    environment.filterCondition department.recordType ⟨[⟨"title", titled⟩]⟩ ⟨0, 0⟩ =
      .ok ⟨"((departments.title LIKE ?))", [.text "Sales"]⟩ ∧
    environment.filterCondition employee.recordType ⟨[⟨"department.floor", titled⟩]⟩ ⟨0, 0⟩ = .ok .always ∧
    environment.filterCondition employee.recordType ⟨[⟨"desk.title", titled⟩]⟩ ⟨0, 0⟩ = .ok .always ∧
    environment.filterCondition employee.recordType ⟨[⟨"office.title", titled⟩]⟩ ⟨0, 0⟩ = .ok .always := by
  have hok : environment.associations employee.recordType = .ok held := by decide +kernel
  have hfound : (held.find? fun b => b.name = "department") = some workplace := by decide +kernel
  have hreaches : environment.Reaches workplace department.recordType :=
    ⟨.unresolved "Department", by decide +kernel, by decide +kernel⟩
  have hcolumn : environment.HasColumn department.recordType "title" :=
    ⟨.ofNameType "title" "varchar(40)", by decide +kernel, rfl⟩
  have hfloor : environment.LeadsToNoColumn held "department" "floor" :=
    .absent hfound hreaches (Environment.columnSlot?_eq_none_iff.1 (by decide +kernel))
  have hdesk : environment.LeadsToNoColumn held "desk" "title" :=
    .polymorphic (a := environment.describeBelongsTo employee.recordType employee.relationships[3])
      (by decide +kernel) rfl
  have hoffice : environment.LeadsToNoColumn held "office" "title" := .unknown (by decide +kernel)
  have hrelated : environment.filterCondition department.recordType ⟨[⟨"title", titled⟩]⟩ ⟨0, 0⟩ =
      .ok ⟨"((departments.title LIKE ?))", [.text "Sales"]⟩ := by decide +kernel
  obtain ⟨c, hc, htitle⟩ := (dotted_keys_filter_related_types reachable_catalog .default hok "department"
    (by decide) "title" titled ⟨0, 0⟩).1 workplace department.recordType hfound hreaches hcolumn
  obtain rfl := Except.ok.inj (htitle.symm.trans hrelated)
  have hskipped (name column : String) (hdot : '.' ∉ name.toList)
      (hnone : environment.LeadsToNoColumn held name column) :=
    (dotted_keys_filter_related_types reachable_catalog .default hok name hdot column titled ⟨0, 0⟩).2 hnone
      [] []
  exact ⟨reachable_catalog, hok, by decide, hfound, hreaches, hcolumn, hfloor, hdesk, hoffice, hc, hrelated,
    hskipped "department" "floor" (by decide) hfloor, hskipped "desk" "title" (by decide) hdesk,
    hskipped "office" "title" (by decide) hoffice⟩

/-! ### Associations into the table of their owner -/

namespace Environment

variable {env : Environment} {record related : RecordType} {associations : List Association} {a : Association}

/-- A key that names an association into the table of its owner stands for the key column alone. -/
theorem filterTarget_of_sharesTable (hok : env.associations record = .ok associations)
    (hcolumn : ¬env.HasColumn record a.name) (hdot : '.' ∉ a.name.toList)
    (hfound : (associations.find? fun b => b.name = a.name && b.kind = .belongsTo) = some a)
    (hshares : env.SharesTable record a) :
    env.filterTarget record a.name = .ok [⟨record.qualified a.childKey, env.keyType record a.childKey⟩] := by
  obtain ⟨related, ⟨reference, htarget, hresolve⟩, htable⟩ := hshares
  have hlabel : env.labelColumn? record a = .ok none := by
    rw [labelColumn?]
    simp only [htarget]
    refine Fallible.bind_eq_ok_iff.2 ⟨related, hresolve, ?_⟩
    rw [if_pos htable]
    rfl
  rw [filterTarget_parent hok hcolumn hdot hfound, hlabel]
  rfl

theorem column_of_mem_groupAtoms {slots : List Slot} {column : String} {entry : FilterEntry} {now : Instant}
    (h : ∀ slot ∈ slots, slot.column = column) :
    ∀ atom ∈ env.groupAtoms slots entry now, atom.column = column := by
  intro atom hatom
  obtain ⟨slot, hslot, hentry⟩ := List.mem_filterMap.1 hatom
  obtain ⟨predicate, -, rfl⟩ := Option.map_eq_some_iff.1 hentry
  exact h slot hslot

/-- The atoms of a key whose slots are one column are tests on this column. -/
theorem fieldAtoms_on_column (column : String) {key : String} {slots : List Slot}
    (h : env.filterTarget record key = .ok slots) (hslots : ∀ slot ∈ slots, slot.column = column)
    (groups : List (String × FilterEntry)) (now : Instant) :
    ∃ atoms, env.fieldAtoms record ⟨key, groups⟩ now = .ok atoms ∧ (∀ atom ∈ atoms, atom.column = column) ∧
      (atoms = [] ↔ ∀ group ∈ groups, ∀ slot ∈ slots, group.2.Incomplete now slot.type) := by
  refine ⟨_, fieldAtoms_of_filterTarget h groups now, fun atom hatom => ?_, ?_⟩
  · obtain ⟨group, -, hatom⟩ := List.mem_flatMap.1 hatom
    exact column_of_mem_groupAtoms hslots atom hatom
  · simp only [List.flatMap_eq_nil_iff, groupAtoms_eq_nil_iff]

end Environment

/-- **What an association into the table of its owner tests.**  Where the owner holds the key, the name of the
association tests the key alone.  A column behind a dot is tested as the column of this name in the table that
both sides share, which is a column of the owner itself: another one than the key, unless it is the key that is
asked for, or no group asks for anything. -/
theorem keys_into_own_table {catalog : Catalog} (h : catalog.Reachable) (config : Config)
    {record related : RecordType} {associations : List Association}
    (hok : (catalog.environment config).associations record = .ok associations) {a : Association}
    (hdot : '.' ∉ a.name.toList) (hreaches : (catalog.environment config).Reaches a related)
    (htable : related.tableName = record.tableName) (groups : List (String × FilterEntry)) (now : Instant) :
    ((associations.find? fun b => b.name = a.name && b.kind = .belongsTo) = some a →
      ¬(catalog.environment config).HasColumn record a.name →
      ∃ atoms, (catalog.environment config).fieldAtoms record ⟨a.name, groups⟩ now = .ok atoms ∧
        ∀ atom ∈ atoms, atom.column = record.qualified a.childKey) ∧
    ((associations.find? fun b => b.name = a.name) = some a → ∀ column,
      ∃ atoms, (catalog.environment config).fieldAtoms record ⟨a.name ++ "." ++ column, groups⟩ now =
          .ok atoms ∧
        (∀ atom ∈ atoms, atom.column = record.qualified column) ∧
        (atoms = [] ↔ ∀ group ∈ groups, ∀ slot, (catalog.environment config).columnSlot? related column =
          some slot → group.2.Incomplete now slot.type) ∧
        ((∀ atom ∈ atoms, atom.column = record.qualified a.childKey) ↔
          atoms = [] ∨ column = a.childKey)) := by
  constructor
  · intro hfound hcolumn
    have htarget := Environment.filterTarget_of_sharesTable hok hcolumn hdot hfound ⟨related, hreaches, htable⟩
    obtain ⟨atoms, hatoms, hkey, -⟩ :=
      Environment.fieldAtoms_on_column (record.qualified a.childKey) htarget (by simp) groups now
    exact ⟨atoms, hatoms, hkey⟩
  · intro hfound column
    have hcolumn := h.wellFormed.not_hasColumn_dotted config record a.name column
    -- Both sides write their columns with the same table, so nothing tells a related row from its owner.
    have hshared (name : String) : related.qualified name = record.qualified name := by
      rw [RecordType.qualified, RecordType.qualified, htable]
    have hslots : ∀ slot ∈ ((catalog.environment config).columnSlot? related column).toList,
        slot.column = record.qualified column := by
      intro slot hslot
      obtain ⟨-, -, -, hqualified, -⟩ := Environment.columnSlot?_eq_some (Option.mem_toList.1 hslot)
      rw [hqualified, hshared]
    obtain ⟨atoms, hatoms, hname, hempty⟩ := Environment.fieldAtoms_on_column _
      (Environment.filterTarget_dotted hok hcolumn hdot hfound hreaches) hslots groups now
    refine ⟨atoms, hatoms, hname, by simpa [Option.mem_def] using hempty, fun hkey => ?_, ?_⟩
    · cases atoms with
      | nil => exact .inl rfl
      | cons atom rest =>
        have hboth := (hname atom (by simp)).symm.trans (hkey atom (by simp))
        exact .inr (record.qualified_injective hboth)
    · rintro (rfl | rfl)
      · intro atom hatom
        cases hatom
      · exact hname

namespace Staff

/-- The manager of an employee. -/
def manager : Association :=
  environment.describeBelongsTo employee.recordType employee.relationships[0]

theorem reaches_manager : environment.Reaches manager employee.recordType :=
  ⟨.resolved employee.recordType, by decide +kernel, rfl⟩

end Staff

open Staff in
/-- Employees are found by the key of their manager; what is asked of the name of the manager is asked of their
own. -/
theorem keys_into_own_table_staff :
    catalog.Reachable ∧ environment.associations employee.recordType = .ok held ∧
    '.' ∉ manager.name.toList ∧ environment.Reaches manager employee.recordType ∧
    (held.find? fun b => b.name = manager.name && b.kind = .belongsTo) = some manager ∧
    ¬environment.HasColumn employee.recordType manager.name ∧
    (held.find? fun b => b.name = manager.name) = some manager ∧
    environment.filterCondition employee.recordType ⟨[⟨"manager", [("0", ⟨none, "7"⟩)]⟩]⟩ ⟨0, 0⟩ =
      .ok ⟨"((employees.manager_id = ?))", [.integer 7]⟩ ∧
    ∃ byKey byName, environment.fieldAtoms employee.recordType ⟨"manager", [("0", ⟨none, "7"⟩)]⟩ ⟨0, 0⟩ =
        .ok byKey ∧
      (∀ atom ∈ byKey, atom.column = "employees.manager_id") ∧
      environment.fieldAtoms employee.recordType ⟨"manager.name", titled⟩ ⟨0, 0⟩ = .ok byName ∧
      (∀ atom ∈ byName, atom.column = "employees.name") ∧ byName ≠ [] := by
  have hok : environment.associations employee.recordType = .ok held := by decide +kernel
  have hparent : (held.find? fun b => b.name = manager.name && b.kind = .belongsTo) = some manager := by
    decide +kernel
  have hcolumn : ¬environment.HasColumn employee.recordType manager.name :=
    Environment.columnSlot?_eq_none_iff.1 (by decide +kernel)
  have hfound : (held.find? fun b => b.name = manager.name) = some manager := by decide +kernel
  have hslot : environment.columnSlot? employee.recordType "name" = some ⟨"employees.name", .text⟩ := by
    decide +kernel
  obtain ⟨byKey, hkey, hbyKey⟩ := (keys_into_own_table reachable_catalog .default hok (by decide)
    reaches_manager rfl [("0", ⟨none, "7"⟩)] ⟨0, 0⟩).1 hparent hcolumn
  obtain ⟨byName, hname, hbyName, hempty, -⟩ := (keys_into_own_table reachable_catalog .default hok
    (by decide) reaches_manager rfl titled ⟨0, 0⟩).2 hfound "name"
  refine ⟨reachable_catalog, hok, by decide, reaches_manager, hparent, hcolumn, hfound, by decide +kernel, byKey,
    byName, hkey, hbyKey, hname, hbyName, fun hnil => ?_⟩
  have hincomplete := hempty.1 hnil ("0", ⟨some "is", "Sales"⟩) (by decide) _ hslot
  have hnone : (⟨some "is", "Sales"⟩ : FilterEntry).predicate? Config.default.patternStyle .text ⟨0, 0⟩ =
      none := predicate?_eq_none_iff.2 hincomplete
  exact absurd hnone (by decide +kernel)

open Staff in
/-- The name of a manager is looked for among the names of the employees themselves, not in the key. -/
theorem dotted_key_tests_owner_staff :
    catalog.Reachable ∧ environment.associations employee.recordType = .ok held ∧ manager ∈ held ∧
    environment.SharesTable employee.recordType manager ∧
    employee.recordType.qualified manager.childKey = "employees.manager_id" ∧
    environment.fieldAtoms employee.recordType ⟨manager.name ++ "." ++ "name", titled⟩ ⟨0, 0⟩ =
      .ok [⟨"employees.name", .matchesPattern .sqlite false "Sales"⟩] :=
  ⟨reachable_catalog, by decide +kernel, List.mem_of_getElem? (i := 0) rfl,
    ⟨employee.recordType, reaches_manager, rfl⟩, by decide +kernel, by decide +kernel⟩

end AdminQuery
