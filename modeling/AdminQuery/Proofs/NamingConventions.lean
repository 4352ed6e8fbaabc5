import AdminQuery.Proofs.DeclarationChecks
import AdminQuery.Proofs.PolymorphicSides
import AdminQuery.Proofs.SnakeCase

/-!
# Naming conventions

A declaration with nothing but a kind and a name says which type it means and which key refers to it.  A type
that belongs to another reads both off the name of the declaration, a type that owns others reads the key off
its own name, and neither asks the other.

* `RecordType.ofUnderscored`: the type that a name in snake case stands for
* `tableName_ofUnderscored`, `referenceKey_ofUnderscored`: its table and its key, from the name alone
* `typeName_target?_of_describe`, `childKey_of_describe`: what a description takes from its declaration
* `naming_conventions_agree`: **the sides of an association agree on its type and on its key**
-/

namespace AdminQuery

/-! ### The type of a name -/

/-- The type that a name in snake case stands for, under the naming conventions. -/
def RecordType.ofUnderscored (name : String) : RecordType :=
  .ofName (Inflection.camelCase name)

section OfUnderscored

variable {name : String}

theorem RecordType.tableName_ofUnderscored (h : Inflection.isSnakeCase name = true) :
    (RecordType.ofUnderscored name).tableName = Inflection.plural name := by
  show Inflection.plural (Inflection.snakeCase (Inflection.camelCase name)) = Inflection.plural name
  rw [Inflection.snakeCase_camelCase h]

theorem RecordType.referenceKey_ofUnderscored (h : Inflection.isSnakeCase name = true) :
    (RecordType.ofUnderscored name).referenceKey = name ++ "_id" := by
  show Inflection.snakeCase (Inflection.camelCase name) ++ "_id" = name ++ "_id"
  rw [Inflection.snakeCase_camelCase h]

/-- What has a name for its singular means the type that the name stands for. -/
theorem Relationship.targetName_eq_ofUnderscored {decl : Relationship} (hclass : decl.className = none)
    (hsingular : Inflection.singular decl.name = name) :
    decl.targetName = (RecordType.ofUnderscored name).name := by
  rw [Relationship.targetName, hclass, hsingular]
  rfl

end OfUnderscored

/-! ### What a description takes from its declaration -/

theorem Relationship.typeName_target (decl : Relationship) (owner : RecordType) :
    (decl.target owner).typeName = decl.targetName := by
  rw [target]
  split
  · rename_i h
    exact h.symm
  · rfl

/-- Without a key and a role, a record that belongs to another refers to it by the association's name. -/
theorem Relationship.childKey_belongsTo {decl : Relationship} (hrole : decl.role = none)
    (hkey : decl.foreignKey = none) (owner : RecordType) :
    decl.childKey owner .belongsTo = decl.name ++ "_id" := by
  simp only [childKey, hkey, hrole]

/-- Without a key and a role, what a type owns refers to it by the type's name. -/
theorem Relationship.childKey_owned {decl : Relationship} (hrole : decl.role = none)
    (hkey : decl.foreignKey = none) {kind : AssociationKind} (hkind : kind ≠ .belongsTo)
    (owner : RecordType) : decl.childKey owner kind = owner.referenceKey := by
  cases kind with
  | belongsTo => exact absurd rfl hkind
  | hasOne => simp only [childKey, hkey, hrole]
  | hasMany => simp only [childKey, hkey, hrole]
  | manyToMany => simp only [childKey, hkey]

namespace Environment

variable {env : Environment} {owner : RecordType} {decl : Relationship} {a : Association}

/-- The one type on the far side has the name that the declaration means. -/
theorem typeName_target?_of_describe (h : env.describe owner decl = .ok a)
    (hp : decl.polymorphic = false) :
    a.target?.map TypeReference.typeName = some decl.targetName := by
  rw [target?_of_describe h, hp, if_neg Bool.false_ne_true, Option.map_some, decl.typeName_target owner]

/-- A description has the child key of its declaration. -/
theorem childKey_of_describe (h : env.describe owner decl = .ok a) {kind : AssociationKind}
    (hkind : decl.HasKind kind) : a.childKey = decl.childKey owner kind := by
  obtain ⟨found, haccepts, rfl⟩ := describe_eq_ok_iff_accepts.1 h
  have hsame : found = kind := by
    have hfound := Relationship.checkedKind_eq_ok_iff_hasKind.2 haccepts.hasKind
    rw [Relationship.checkedKind_eq_ok_iff_hasKind.2 hkind] at hfound
    exact (Except.ok.inj hfound).symm
  rw [childKey_describeKind, hsame]

end Environment

/-- **The sides of an association agree on its type and on its key.**  A name in snake case that is its own
singular, and the singular of its plural, stands for a type kept in the table of that plural.  What belongs to
the name belongs to that type, by the name with `_id` for a key; what the type owns has the same key; and what
has many under the name of the table has many of that type. -/
theorem naming_conventions_agree {name : String} (hname : Inflection.isSnakeCase name = true)
    (hsingular : Inflection.singular name = name)
    (hplural : Inflection.singular (Inflection.plural name) = name) :
    (RecordType.ofUnderscored name).tableName = Inflection.plural name ∧
    ∀ (env : Environment) (owner : RecordType) (decl : Relationship) (a : Association),
      env.Declares owner decl a →
      (decl.HasKind .belongsTo → decl.name = name →
        (decl.className = none → decl.polymorphic = false →
          a.target?.map TypeReference.typeName = some (RecordType.ofUnderscored name).name) ∧
        (decl.role = none → decl.foreignKey = none → a.childKey = name ++ "_id")) ∧
      (∀ kind : AssociationKind, kind ≠ .belongsTo → decl.HasKind kind →
        owner = RecordType.ofUnderscored name → decl.role = none → decl.foreignKey = none →
          a.childKey = name ++ "_id") ∧
      (decl.HasKind .hasMany → decl.name = (RecordType.ofUnderscored name).tableName →
        decl.className = none →
          a.target?.map TypeReference.typeName = some (RecordType.ofUnderscored name).name) := by
  have htable := RecordType.tableName_ofUnderscored hname
  refine ⟨htable, ?_⟩
  intro env owner decl a h
  refine ⟨?_, ?_, ?_⟩
  · rintro hkind rfl
    constructor
    · intro hclass hp
      rw [Environment.typeName_target?_of_describe h.describe hp,
        Relationship.targetName_eq_ofUnderscored hclass hsingular]
    · intro hrole hkey
      rw [Environment.childKey_of_describe h.describe hkind, Relationship.childKey_belongsTo hrole hkey]
  · rintro kind howned hkind rfl hrole hkey
    rw [Environment.childKey_of_describe h.describe hkind,
      Relationship.childKey_owned hrole hkey howned, RecordType.referenceKey_ofUnderscored hname]
  · intro hkind hdecl hclass
    have hp : decl.polymorphic = false := by
      cases hp : decl.polymorphic with
      | false => rfl
      | true => cases hkind.polymorphic hp
    have hmeant : Inflection.singular decl.name = name := by rw [hdecl, htable, hplural]
    rw [Environment.typeName_target?_of_describe h.describe hp,
      Relationship.targetName_eq_ofUnderscored hclass hmeant]

namespace League

/-- An age group has a captain, fixtures and grounds, all of them kept elsewhere. -/
def ageGroup : TypeDeclaration where
  name := "Under21Category"
  table := none
  primaryKey := none
  columns := [.ofNameType "id" "integer"]
  relationships :=
    [Relationship.ofKind "has_one" "captain", Relationship.ofKind "has_many" "fixtures",
      Relationship.ofKind "many_to_many" "grounds"]

/-- A fixture belongs to one age group and has many that may attend. -/
def fixture : TypeDeclaration where
  name := "Fixture"
  table := none
  primaryKey := none
  columns := [.ofNameType "id" "integer"]
  relationships :=
    [Relationship.ofKind "belongs_to" "under21_category",
      Relationship.ofKind "has_many" "under21_categories"]

/-- Age groups and their fixtures. -/
def juniors : Environment :=
  Catalog.environment ⟨[ageGroup, fixture]⟩ .default

end League

/-- The digits in front of a capital end an acronym, and the plural changes a letter: fixtures and age groups
agree all the same. -/
theorem naming_conventions_agree_juniors :
    Inflection.isSnakeCase "under21_category" = true ∧
      League.ageGroup.recordType = RecordType.ofUnderscored "under21_category" ∧
      League.ageGroup.recordType.tableName = "under21_categories" ∧
      ∃ group groups captain grounds : Association,
        League.juniors.associations League.fixture.recordType = .ok [group, groups] ∧
        League.juniors.Declares League.ageGroup.recordType League.ageGroup.relationships[0] captain ∧
        League.juniors.Declares League.ageGroup.recordType League.ageGroup.relationships[2] grounds ∧
        group.target?.map TypeReference.typeName = some "Under21Category" ∧
        groups.target?.map TypeReference.typeName = some "Under21Category" ∧
        group.childKey = "under21_category_id" ∧ captain.childKey = "under21_category_id" ∧
        grounds.childKey = "under21_category_id" := by
  have hname : Inflection.isSnakeCase "under21_category" = true := by decide +kernel
  have htype : League.ageGroup.recordType = RecordType.ofUnderscored "under21_category" := by
    decide +kernel
  obtain ⟨htable, hagree⟩ :=
    naming_conventions_agree hname (by decide +kernel) (by decide +kernel)
  have hfixture : League.juniors.associations League.fixture.recordType = .ok
      [League.juniors.describeBelongsTo League.fixture.recordType League.fixture.relationships[0],
        Environment.describeOwned League.fixture.recordType .hasMany
          League.fixture.relationships[1]] := by
    decide +kernel
  have hgroup : League.juniors.associations League.ageGroup.recordType = .ok
      [Environment.describeOwned League.ageGroup.recordType .hasOne League.ageGroup.relationships[0],
        Environment.describeOwned League.ageGroup.recordType .hasMany League.ageGroup.relationships[1],
        Environment.describeOwned League.ageGroup.recordType .manyToMany
          League.ageGroup.relationships[2]] := by
    decide +kernel
  have hplural : Inflection.plural "under21_category" = "under21_categories" := by decide +kernel
  have hcaptain : League.juniors.Declares League.ageGroup.recordType League.ageGroup.relationships[0] _ :=
    ⟨_, 0, hgroup, rfl, rfl⟩
  have hgrounds : League.juniors.Declares League.ageGroup.recordType League.ageGroup.relationships[2] _ :=
    ⟨_, 2, hgroup, rfl, rfl⟩
  obtain ⟨hbelongs, -, -⟩ := hagree _ _ _ _ ⟨_, 0, hfixture, rfl, rfl⟩
  obtain ⟨-, -, hmany⟩ := hagree _ _ _ _ ⟨_, 1, hfixture, rfl, rfl⟩
  obtain ⟨htarget, hkey⟩ :=
    hbelongs (Relationship.hasKind_ofKind (by decide +kernel) (by decide +kernel)) rfl
  refine ⟨hname, htype, by rw [htype, htable, hplural], _, _, _, _, hfixture, hcaptain, hgrounds,
    htarget rfl rfl, ?_, hkey rfl rfl, ?_, ?_⟩
  · exact hmany (Relationship.hasKind_ofKind (by decide +kernel) (by decide +kernel))
      (by rw [htable, hplural]; rfl) rfl
  · exact (hagree _ _ _ _ hcaptain).2.1 .hasOne (by decide)
      (Relationship.hasKind_ofKind (by decide +kernel) (by decide +kernel)) htype rfl rfl
  · exact (hagree _ _ _ _ hgrounds).2.1 .manyToMany (by decide)
      (Relationship.hasKind_ofKind (by decide +kernel) (by decide +kernel)) htype rfl rfl

end AdminQuery
