import AdminQuery.Proofs.Fallible
import AdminQuery.Report
import Mathlib.Data.List.Nodup

/-!
# What catalogs look like

A catalog is reached from the empty one by registrations; a refused one leaves it as it was.

* `Catalog.Reachable`: the catalogs that registrations lead to
* `Catalog.WellFormed`: all names are identifiers, and no type is declared twice
* `Reachable.wellFormed`: **every reachable catalog is well formed**, by induction on the run
* `reachable_of_ofTextFrom`: the catalog of a JSON text is reachable
* `WellFormed.registry_types`: a catalog and its registry hold the same types in the same order
* `League.catalog`: a catalog with two types, for concrete instances
-/

namespace AdminQuery

/-- A declaration passes when all its names are identifiers. -/
theorem TypeDeclaration.validate_eq_ok_iff {decl : TypeDeclaration} :
    decl.validate = .ok () ↔ ∀ name ∈ decl.identifiers, Text.isIdentifier name = true := by
  rw [validate, invalidIdentifier?]
  cases h : decl.identifiers.find? fun name => !Text.isIdentifier name with
  | none => simpa using h
  | some name =>
    simp only [reduceCtorEq, false_iff, not_forall]
    exact ⟨name, List.mem_of_find?_eq_some h, by simpa using List.find?_some h⟩

namespace Catalog

/-- The catalogs that registrations lead to, starting from the empty one. -/
inductive Reachable : Catalog → Prop where
  | empty : Reachable empty
  | register {catalog next : Catalog} {decl : TypeDeclaration} :
    Reachable catalog → catalog.register decl = .ok next → Reachable next

/-- Every name that may stand in a condition is an identifier, and every type is declared once. -/
structure WellFormed (catalog : Catalog) : Prop where
  identifiers : ∀ decl ∈ catalog.types, ∀ name ∈ decl.identifiers, Text.isIdentifier name = true
  names_nodup : (catalog.types.map TypeDeclaration.name).Nodup

/-! ### One registration -/

/-- A registration succeeds when all names are identifiers and the type is new; the declaration then
stands behind the others. -/
theorem register_eq_ok_iff {catalog next : Catalog} {decl : TypeDeclaration} :
    catalog.register decl = .ok next ↔
      (∀ name ∈ decl.identifiers, Text.isIdentifier name = true) ∧
        decl.name ∉ catalog.types.map TypeDeclaration.name ∧ next = ⟨catalog.types ++ [decl]⟩ := by
  have hnew : (catalog.get? decl.name).isSome = true ↔
      decl.name ∈ catalog.types.map TypeDeclaration.name := by
    simp [get?, List.find?_isSome]
  rw [Catalog.register, Fallible.bind_eq_ok_iff]
  by_cases hmem : decl.name ∈ catalog.types.map TypeDeclaration.name
  · simp [hnew.2 hmem, hmem]
  · rw [← TypeDeclaration.validate_eq_ok_iff, if_neg fun h => hmem (hnew.1 h)]
    constructor
    · rintro ⟨⟨⟩, hok, h⟩
      cases h
      exact ⟨hok, hmem, rfl⟩
    · rintro ⟨hok, -, rfl⟩
      exact ⟨(), hok, rfl⟩

theorem wellFormed_empty : WellFormed empty :=
  ⟨by simp [empty], by simp [empty]⟩

/-- **One registration keeps a catalog well formed.** -/
theorem WellFormed.register {catalog next : Catalog} {decl : TypeDeclaration}
    (h : catalog.WellFormed) (hr : catalog.register decl = .ok next) : next.WellFormed := by
  obtain ⟨hvalid, hnew, rfl⟩ := register_eq_ok_iff.1 hr
  constructor
  · intro held hheld
    rcases List.mem_append.1 hheld with hheld | hheld
    · exact h.identifiers held hheld
    · rw [List.mem_singleton.1 hheld]
      exact hvalid
  · rw [List.map_append, List.nodup_append]
    refine ⟨h.names_nodup, by simp, ?_⟩
    rintro a ha b hb rfl
    rw [List.map_singleton, List.mem_singleton] at hb
    exact hnew (hb ▸ ha)

/-! ### Runs of registrations -/

/-- **Every reachable catalog is well formed.** -/
theorem Reachable.wellFormed {catalog : Catalog} (h : catalog.Reachable) : catalog.WellFormed := by
  induction h with
  | empty => exact wellFormed_empty
  | register _ hr ih => exact ih.register hr

theorem Reachable.registerAll {decls : List TypeDeclaration} :
    ∀ {catalog next : Catalog}, catalog.Reachable → catalog.registerAll decls = .ok next →
      next.Reachable := by
  induction decls with
  | nil =>
    intro catalog next h hr
    cases hr
    exact h
  | cons decl rest ih =>
    intro catalog next h hr
    obtain ⟨step, hstep, hrest⟩ := Fallible.bind_eq_ok_iff.1 hr
    exact ih (h.register hstep) hrest

/-- **The catalog of a JSON text is reachable.** -/
theorem reachable_of_ofTextFrom {source text : String} {catalog : Catalog}
    (h : ofTextFrom source text = .ok catalog) : catalog.Reachable := by
  rw [ofTextFrom] at h
  split at h
  · rw [ofDocument] at h
    split at h
    · exact Reachable.empty.registerAll h
    · cases h
  · cases h

/-! ### The declarations of a well-formed catalog -/

theorem get?_of_mem {catalog : Catalog} (h : catalog.WellFormed) {decl : TypeDeclaration}
    (hd : decl ∈ catalog.types) : catalog.get? decl.name = some decl := by
  have hsome : (catalog.get? decl.name).isSome = true := by
    simpa [get?, List.find?_isSome] using ⟨decl, hd, rfl⟩
  obtain ⟨held, hheld⟩ := Option.isSome_iff_exists.1 hsome
  have hname : held.name = decl.name := by simpa using List.find?_some hheld
  have heq : held = decl :=
    List.inj_on_of_nodup_map h.names_nodup (List.mem_of_find?_eq_some hheld) hd hname
  rw [hheld, heq]

@[simp] theorem name_recordType (decl : TypeDeclaration) : decl.recordType.name = decl.name := rfl

theorem names_recordTypes (catalog : Catalog) :
    catalog.recordTypes.map RecordType.name = catalog.types.map TypeDeclaration.name := by
  simp [recordTypes, Function.comp_def]

/-! ### The registry of a catalog -/

/-- Types of distinct names that are registered one after the other all stay, in order. -/
theorem types_foldl_register {records : List RecordType} :
    ∀ {registry : Registry}, ((registry.types ++ records).map RecordType.name).Nodup →
      (records.foldl Registry.register registry).types = registry.types ++ records := by
  induction records with
  | nil => simp
  | cons record rest ih =>
    intro registry hnodup
    have hnew : record.name ∉ registry.types.map RecordType.name := by
      intro hheld
      rw [List.map_append, List.nodup_append] at hnodup
      exact hnodup.2.2 record.name hheld record.name (by simp) rfl
    have hstep : (registry.register record).types = registry.types ++ [record] :=
      Keyed.upsert_of_get?_eq_none (Keyed.get?_eq_none_iff.2 hnew)
    rw [List.foldl_cons, ih (by rwa [hstep, List.append_assoc]), hstep, List.append_assoc]
    rfl

/-- **A catalog and its registry hold the same types in the same order.** -/
theorem WellFormed.registry_types {catalog : Catalog} (h : catalog.WellFormed) :
    catalog.registry.types = catalog.recordTypes := by
  have hnodup : ((Registry.empty.types ++ catalog.recordTypes).map RecordType.name).Nodup := by
    simpa [Registry.empty, names_recordTypes] using h.names_nodup
  rw [registry, Registry.ofList, types_foldl_register hnodup]
  rfl

/-- What the registry finds is a type of the catalog, under its name. -/
theorem WellFormed.registry_find? {catalog : Catalog} (h : catalog.WellFormed) {name : String}
    {record : RecordType} :
    catalog.registry.find? name = some record ↔ record ∈ catalog.recordTypes ∧ record.name = name := by
  rw [Registry.find?, h.registry_types, Keyed.get?]
  constructor
  · intro hf
    exact ⟨List.mem_of_find?_eq_some hf, by simpa using List.find?_some hf⟩
  · rintro ⟨hmem, rfl⟩
    have hsome : (catalog.recordTypes.find? fun t => t.name = record.name).isSome = true := by
      simpa [List.find?_isSome] using ⟨record, hmem, rfl⟩
    obtain ⟨held, hheld⟩ := Option.isSome_iff_exists.1 hsome
    have hname : held.name = record.name := by simpa using List.find?_some hheld
    have hnodup : (catalog.recordTypes.map RecordType.name).Nodup := by
      rw [names_recordTypes]
      exact h.names_nodup
    rw [hheld, List.inj_on_of_nodup_map hnodup (List.mem_of_find?_eq_some hheld) hmem hname]

end Catalog

/-! ### A catalog of teams and divisions -/

namespace League

/-- Divisions have a name. -/
def division : TypeDeclaration where
  name := "Division"
  table := some "divisions"
  primaryKey := none
  columns := [.ofNameType "id" "integer", .ofNameType "name" "varchar(50)"]
  relationships := []

/-- Teams have a name, a day of foundation and a division, whose key is not declared. -/
def team : TypeDeclaration where
  name := "Team"
  table := some "teams"
  primaryKey := none
  columns := [.ofNameType "id" "integer", .ofNameType "name" "text", .ofNameType "founded" "date"]
  relationships := [{ Relationship.ofKind "belongs_to" "division" with className := some "Division" }]

/-- Both types, divisions first. -/
def catalog : Catalog :=
  ⟨[division, team]⟩

theorem reachable_catalog : catalog.Reachable := by
  have hdivision : Catalog.empty.register division = .ok ⟨[division]⟩ := by decide
  have hteam : (⟨[division]⟩ : Catalog).register team = .ok catalog := by decide
  exact (Catalog.Reachable.empty.register hdivision).register hteam

end League

end AdminQuery
