import AdminQuery.Proofs.Associations

/-!
# What associations say of their declarations

A declaration leaves most of an association open, in eleven independent ways; whatever it leaves open,
the fields of the association agree with each other.

* `checkedKind_eq_ok_iff`: what a declaration needs to have a kind
* `Association.Follows`: how an association, its declaration and its owner hang together
* `follows_describeBelongsTo`, `follows_describeOwned`: both ways to build an association
* `follows_of_describe`: **an association follows the declaration that it describes**
* `associations_follow_declarations`: **every association of a record type follows its declaration**, one
  for each and in the same order
-/

namespace AdminQuery

/-! ### The kind of a declaration -/

/-- A declaration has a kind when it has a name and a known token, and is polymorphic only if it belongs
to its parent. -/
theorem Relationship.checkedKind_eq_ok_iff {decl : Relationship} {kind : AssociationKind} :
    decl.checkedKind = .ok kind ↔ Text.isAllBlank decl.name = false ∧
      decl.kind.bind AssociationKind.ofToken? = some kind ∧
      (decl.polymorphic = true → kind = .belongsTo) := by
  rw [Relationship.checkedKind]
  cases hname : Text.isAllBlank decl.name with
  | true => simp
  | false =>
    cases htoken : decl.kind with
    | none => simp
    | some token =>
      cases hkind : AssociationKind.ofToken? token with
      | none => simp [hkind]
      | some found =>
        cases hp : decl.polymorphic with
        | false => simp [hkind]
        | true =>
          by_cases hfound : found = .belongsTo
          · simp [hkind, hfound, eq_comm]
          · -- A polymorphic declaration of another kind is refused.
            have hother : ¬(some found = some kind ∧ kind = .belongsTo) := by
              rintro ⟨hsame, rfl⟩
              exact hfound (Option.some.inj hsame)
            simpa [hkind, hfound] using hother

/-! ### Associations that follow their declarations -/

/-- How an association hangs together with its declaration and its owner. -/
structure Association.Follows (a : Association) (owner : RecordType) (decl : Relationship) : Prop where
  name : a.name = decl.name
  title : a.title = Inflection.title decl.name
  kind : decl.kind.bind AssociationKind.ofToken? = some a.kind
  role : a.role = decl.role
  inverseName : a.inverseName = decl.inverseOf
  readOnly : a.readOnly = decl.readOnly
  nestedForm : a.nestedForm = decl.nestedForm
  isPolymorphic : a.isPolymorphic = decl.polymorphic
  /-- Exactly a polymorphic association has a column for the type of its parent. -/
  foreignTypeColumn_iff : a.foreignTypeColumn.isSome = true ↔ a.isPolymorphic = true
  /-- Exactly a polymorphic association leaves its parents to a role. -/
  parent_iff : (∃ role, a.parent = .polymorphic role) ↔ a.isPolymorphic = true
  /-- Exactly a polymorphic association has no single type on its far side. -/
  target_iff : a.target? = none ↔ a.isPolymorphic = true
  kind_of_isPolymorphic : a.isPolymorphic = true → a.kind = .belongsTo
  /-- The owner is told apart exactly where it plays a role for the records that hold the key. -/
  discriminator_iff : a.polymorphicDiscriminator.isSome = true ↔
    (a.kind = .hasOne ∨ a.kind = .hasMany) ∧ decl.role.isSome = true
  discriminator_eq : ∀ typeName, a.polymorphicDiscriminator = some typeName → typeName = owner.name
  child_iff : a.child = .resolved owner ↔ a.kind = .belongsTo ∨ decl.targetName = owner.name
  parent_of_owned : a.kind ≠ .belongsTo → a.parent = .single (.resolved owner)
  parentKey : ∃ key, a.parentKey = [key] ∧ Text.isIdentifier key = true
  isIdentifier_childKey : Text.isIdentifier a.childKey = true
  isIdentifier_foreignTypeColumn : ∀ column, a.foreignTypeColumn = some column →
    Text.isIdentifier column = true
  childKey_of_foreignKey : ∀ key, decl.foreignKey = some key → a.childKey = key
  parentKey_of_primaryKey : ∀ key, decl.primaryKey = some key → a.parentKey = [key]
  foreignTypeColumn_of_foreignType : ∀ column, decl.foreignType = some column →
    a.isPolymorphic = true → a.foreignTypeColumn = some column

namespace Environment

variable {env : Environment} {owner : RecordType} {decl : Relationship}

/-- **An association whose owner holds the key follows its declaration.** -/
theorem follows_describeBelongsTo (hkind : decl.kind.bind AssociationKind.ofToken? = some .belongsTo)
    (hkeys : ∀ column ∈ (env.describeBelongsTo owner decl).keyColumns,
      Text.isIdentifier column = true) :
    (env.describeBelongsTo owner decl).Follows owner decl where
  name := rfl
  title := rfl
  kind := hkind
  role := rfl
  inverseName := rfl
  readOnly := rfl
  nestedForm := rfl
  isPolymorphic := rfl
  foreignTypeColumn_iff := by cases hp : decl.polymorphic <;> simp [describeBelongsTo, hp]
  parent_iff := by cases hp : decl.polymorphic <;> simp [describeBelongsTo, hp]
  target_iff := by
    cases hp : decl.polymorphic <;> simp [describeBelongsTo, Association.target?, hp]
  kind_of_isPolymorphic := by
    intro _
    rfl
  discriminator_iff := by simp [describeBelongsTo]
  discriminator_eq := by
    intro typeName h
    cases h
  child_iff := by simp [describeBelongsTo]
  parent_of_owned := by
    intro h
    exact absurd rfl h
  parentKey := ⟨_, rfl, hkeys _ (by simp [Association.keyColumns, describeBelongsTo])⟩
  isIdentifier_childKey := hkeys _ (by simp [Association.keyColumns])
  isIdentifier_foreignTypeColumn := by
    intro column h
    exact hkeys column (by simp [Association.keyColumns, h])
  childKey_of_foreignKey := by
    intro key h
    simp [describeBelongsTo, h]
  parentKey_of_primaryKey := by
    intro key h
    simp [describeBelongsTo, h]
  foreignTypeColumn_of_foreignType := by
    intro column h hp
    replace hp : decl.polymorphic = true := hp
    simp [describeBelongsTo, h, hp]

/-- **An association whose key is held elsewhere follows its declaration**, which is not polymorphic. -/
theorem follows_describeOwned {kind : AssociationKind} (howned : kind ≠ .belongsTo)
    (hkind : decl.kind.bind AssociationKind.ofToken? = some kind) (hplain : decl.polymorphic = false)
    (hkeys : ∀ column ∈ (describeOwned owner kind decl).keyColumns, Text.isIdentifier column = true) :
    (describeOwned owner kind decl).Follows owner decl where
  name := rfl
  title := rfl
  kind := hkind
  role := rfl
  inverseName := rfl
  readOnly := rfl
  nestedForm := rfl
  isPolymorphic := hplain.symm
  foreignTypeColumn_iff := by simp [describeOwned]
  parent_iff := by simp [describeOwned]
  target_iff := by cases kind <;> simp_all [describeOwned, Association.target?]
  kind_of_isPolymorphic := by
    intro h
    cases h
  discriminator_iff := by cases kind <;> simp_all [describeOwned]
  discriminator_eq := by
    intro typeName h
    obtain ⟨_, -, rfl⟩ := Option.map_eq_some_iff.1 h
    rfl
  child_iff := by
    show decl.target owner = .resolved owner ↔ kind = .belongsTo ∨ decl.targetName = owner.name
    by_cases htarget : decl.targetName = owner.name <;> simp [Relationship.target, htarget, howned]
  parent_of_owned := by
    intro _
    rfl
  parentKey := ⟨_, rfl, hkeys _ (by simp [Association.keyColumns, describeOwned])⟩
  isIdentifier_childKey := hkeys _ (by simp [Association.keyColumns])
  isIdentifier_foreignTypeColumn := by
    intro column h
    cases h
  childKey_of_foreignKey := by
    intro key h
    simp [describeOwned, h]
  parentKey_of_primaryKey := by
    intro key h
    simp [describeOwned, h]
  foreignTypeColumn_of_foreignType := by
    intro column _ hp
    cases hp

theorem describeKind_of_ne_belongsTo {kind : AssociationKind} (h : kind ≠ .belongsTo) :
    env.describeKind owner kind decl = describeOwned owner kind decl := by
  cases kind with
  | belongsTo => exact absurd rfl h
  | hasOne => rfl
  | hasMany => rfl
  | manyToMany => rfl

/-- **An association follows the declaration that it describes.** -/
theorem follows_of_describe {a : Association} (h : env.describe owner decl = .ok a) :
    a.Follows owner decl := by
  obtain ⟨kind, hkind, rfl, hkeys⟩ := describe_eq_ok_iff.1 h
  obtain ⟨-, htoken, hpolymorphic⟩ := Relationship.checkedKind_eq_ok_iff.1 hkind
  by_cases howned : kind = .belongsTo
  · subst howned
    exact follows_describeBelongsTo htoken hkeys
  · have hplain : decl.polymorphic = false := by
      rw [← Bool.not_eq_true]
      intro hp
      exact howned (hpolymorphic hp)
    rw [describeKind_of_ne_belongsTo howned] at hkeys ⊢
    exact follows_describeOwned howned htoken hplain hkeys

end Environment

/-- **Every association of a record type follows its declaration**: there is one for each declaration, in
declaration order. -/
theorem associations_follow_declarations {env : Environment} {owner : RecordType}
    {associations : List Association} (h : env.associations owner = .ok associations) :
    List.Forall₂ (fun decl a => a.Follows owner decl) (env.schema.relationships owner) associations := by
  have hdescribed : List.Forall₂ (fun decl a => env.describe owner decl = .ok a)
      (env.schema.relationships owner) associations := Fallible.mapM_eq_ok_iff.1 h
  apply hdescribed.imp
  intro decl a hdecl
  exact Environment.follows_of_describe hdecl

namespace Blog

/-- Posts have comments and a successor. -/
def post : TypeDeclaration where
  name := "Post"
  table := some "posts"
  primaryKey := none
  columns := [.ofNameType "id" "integer", .ofNameType "title" "text"]
  relationships :=
    [{ Relationship.ofKind "has_many" "comments" with
        className := some "Comment", role := some "commentable" },
      { Relationship.ofKind "has_one" "successor" with
        className := some "Post", foreignKey := some "predecessor_id" }]

/-- Photos have comments, and tags that nobody declares. -/
def photo : TypeDeclaration where
  name := "Photo"
  table := some "photos"
  primaryKey := some "serial"
  columns := [.ofNameType "serial" "integer"]
  relationships :=
    [{ Relationship.ofKind "has_one" "comment" with
        className := some "Comment", role := some "commentable" },
      { Relationship.ofKind "many_to_many" "tags" with
        className := some "Tag", role := some "commentable", foreignKey := some "photo_id" }]

/-- Comments belong to a post or a photo. -/
def comment : TypeDeclaration where
  name := "Comment"
  table := some "comments"
  primaryKey := none
  columns := [.ofNameType "id" "integer", .ofNameType "commentable_id" "integer"]
  relationships := [{ Relationship.ofKind "belongs_to" "commentable" with polymorphic := true }]

/-- The three types. -/
def catalog : Catalog :=
  ⟨[post, photo, comment]⟩

end Blog

/-- The associations of a photo: one that plays a role, and one between two tables, which cannot. -/
theorem associations_follow_declarations_blog :
    ∃ comment tags, (Blog.catalog.environment .default).associations Blog.photo.recordType =
        .ok [comment, tags] ∧
      comment.polymorphicDiscriminator = some "Photo" ∧ tags.polymorphicDiscriminator = none ∧
      List.Forall₂ (fun decl a => a.Follows Blog.photo.recordType decl) Blog.photo.relationships
        [comment, tags] := by
  have hok : (Blog.catalog.environment .default).associations Blog.photo.recordType = .ok
      [Environment.describeOwned Blog.photo.recordType .hasOne Blog.photo.relationships[0],
        Environment.describeOwned Blog.photo.recordType .manyToMany Blog.photo.relationships[1]] := by
    decide +kernel
  exact ⟨_, _, hok, rfl, rfl, associations_follow_declarations hok⟩

end AdminQuery
