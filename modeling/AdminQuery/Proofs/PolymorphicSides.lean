import AdminQuery.Proofs.Descriptions
import AdminQuery.Proofs.Lists
import AdminQuery.Proofs.RegistryRuns

/-!
# Both sides of a polymorphic association

A record that belongs to parents of any type names a role; the types that own such records declare the
same role.  The side that belongs reads the declarations of every registered type, the side that owns
describes its own, and neither looks at what the other computes.

* `Environment.Declares`: an association of a record type and the declaration it comes from
* `eq_describeBelongsTo`: a polymorphic association is described from the side that belongs
* `parentTypes_eq_ok`: the parents of a role are the registered types that declare it
* `declaresRole_iff`, `any_declaresRole_iff`: **a declaration plays a role exactly when its association
  tells its owner apart in that role**; so for all declarations of a type
* `childKey_of_isPolymorphic`, `childKey_of_discriminator`: the key that each side names after the role
* `polymorphic_sides_agree`: **the types that a polymorphic association finds are those that own
  associations in its role**, whatever the registry went through
-/

namespace AdminQuery

namespace Environment

variable {env : Environment} {owner : RecordType} {decl : Relationship} {a : Association}

/-- `a` is the association of `record` that its declaration `decl` describes. -/
def Declares (env : Environment) (record : RecordType) (decl : Relationship) (a : Association) : Prop :=
  ∃ (associations : List Association) (n : Nat), env.associations record = .ok associations ∧
    (env.schema.relationships record)[n]? = some decl ∧ associations[n]? = some a

theorem Declares.describe (h : env.Declares owner decl a) : env.describe owner decl = .ok a := by
  obtain ⟨associations, n, hok, hdecl, ha⟩ := h
  obtain ⟨found, hfound, hdescribe⟩ := forall₂_getElem? (Fallible.mapM_eq_ok_iff.1 hok) ha
  rw [hdecl] at hfound
  cases hfound
  exact hdescribe

theorem Declares.follows (h : env.Declares owner decl a) : a.Follows owner decl :=
  follows_of_describe h.describe

/-! ### The side that belongs -/

/-- The owner of a polymorphic association holds the key. -/
theorem eq_describeBelongsTo (h : env.describe owner decl = .ok a) (hp : a.isPolymorphic = true) :
    a = env.describeBelongsTo owner decl := by
  have hkind := (follows_of_describe h).kind_of_isPolymorphic hp
  obtain ⟨kind, -, rfl, -⟩ := describe_eq_ok_iff.1 h
  cases kind with
  | belongsTo => rfl
  | hasOne => cases hkind
  | hasMany => cases hkind
  | manyToMany => cases hkind

/-- A polymorphic association leaves its parents to its role, which is named like the association when
nothing else is said. -/
theorem parent_of_isPolymorphic (h : env.describe owner decl = .ok a) (hp : a.isPolymorphic = true) :
    a.parent = .polymorphic (a.role.getD a.name) := by
  have hpolymorphic := (follows_of_describe h).isPolymorphic.symm.trans hp
  rw [eq_describeBelongsTo h hp]
  simp [describeBelongsTo, hpolymorphic]

/-- **The parents of a role are the registered types that declare it.** -/
theorem parentTypes_eq_ok (h : env.describe owner decl = .ok a) (hp : a.isPolymorphic = true)
    (registry : Registry) (schema : Schema) :
    a.parentTypes registry schema = .ok (registry.types.filter fun record =>
      (schema.relationships record).any fun other => other.declaresRole (a.role.getD a.name)) := by
  rw [Association.parentTypes, parent_of_isPolymorphic h hp]
  rfl

/-- The key of a record that belongs to another is named after the role. -/
theorem childKey_of_isPolymorphic (h : env.describe owner decl = .ok a) (hp : a.isPolymorphic = true)
    (hkey : decl.foreignKey = none) : a.childKey = a.role.getD a.name ++ "_id" := by
  rw [eq_describeBelongsTo h hp]
  simp [describeBelongsTo, hkey]

/-! ### The side that owns -/

/-- **A declaration plays a role exactly when its association tells its owner apart in that role.**  An
association between two tables may name a role and plays none. -/
theorem declaresRole_iff (h : env.describe owner decl = .ok a) {role : String} :
    decl.declaresRole role = true ↔
      a.role = some role ∧ a.polymorphicDiscriminator.isSome = true := by
  have hfollows := follows_of_describe h
  rw [Relationship.declaresRole, hfollows.kind, hfollows.discriminator_iff, hfollows.role]
  cases a.kind <;> simp +contextual

/-- A type declares a role exactly when one of its associations tells it apart in that role. -/
theorem any_declaresRole_iff {record : RecordType} {associations : List Association}
    (hok : env.associations record = .ok associations) {role : String} :
    ((env.schema.relationships record).any fun decl => decl.declaresRole role) = true ↔
      ∃ a ∈ associations, a.role = some role ∧ a.polymorphicDiscriminator.isSome = true := by
  rw [List.any_eq_true]
  constructor
  · rintro ⟨decl, hdecl, hrole⟩
    obtain ⟨a, ha, hdescribe⟩ := Fallible.exists_of_mem_mapM hok hdecl
    exact ⟨a, ha, (declaresRole_iff hdescribe).1 hrole⟩
  · rintro ⟨a, ha, hrole⟩
    obtain ⟨decl, hdecl, hdescribe⟩ := Fallible.exists_of_mapM_eq_ok hok ha
    exact ⟨decl, hdecl, (declaresRole_iff hdescribe).2 hrole⟩

/-- The key of records that are owned in a role is named after the role. -/
theorem childKey_of_discriminator (h : env.describe owner decl = .ok a) {role : String}
    (hrole : a.role = some role) (hd : a.polymorphicDiscriminator.isSome = true)
    (hkey : decl.foreignKey = none) : a.childKey = role ++ "_id" := by
  have hdecl : decl.role = some role := (follows_of_describe h).role.symm.trans hrole
  obtain ⟨kind, -, rfl, -⟩ := describe_eq_ok_iff.1 h
  have howned : kind ≠ .belongsTo := by
    rintro rfl
    cases hd
  rw [describeKind_of_ne_belongsTo howned] at hd ⊢
  have htable : kind ≠ .manyToMany := by
    rintro rfl
    cases hd
  simp [describeOwned, hkey, hdecl, htable]

end Environment

/-! ### Both sides -/

/-- What is computed from a catalog with a registry that need not be its own any more. -/
def Catalog.environmentWith (catalog : Catalog) (registry : Registry) (config : Config) : Environment :=
  ⟨catalog.schema, registry, config⟩

/-- **The types that a polymorphic association finds are those that own associations in its role**,
whatever the registry of the catalog went through, also since the association was described.  They come
once each, in the order of the registry, and the two sides use the same key unless a declaration names
another. -/
theorem polymorphic_sides_agree (catalog : Catalog) (operations : List Registry.Operation)
    (config : Config) {earlier : Registry} {settings : Config} {owner : RecordType}
    {decl : Relationship} {d : Association}
    (hd : (catalog.environmentWith earlier settings).Declares owner decl d)
    (hp : d.isPolymorphic = true) :
    ∃ parents, d.parentTypes (catalog.registry.run operations) catalog.schema = .ok parents ∧
      parents.Nodup ∧ parents.Sublist (catalog.registry.run operations).types ∧
      ∀ record ∈ (catalog.registry.run operations).types, ∀ associations,
        (catalog.environmentWith (catalog.registry.run operations) config).associations record =
          .ok associations →
        (record ∈ parents ↔ ∃ e ∈ associations,
          e.role = some (d.role.getD d.name) ∧ e.polymorphicDiscriminator.isSome = true) ∧
        ∀ other e,
          (catalog.environmentWith (catalog.registry.run operations) config).Declares record other e →
          e.role = some (d.role.getD d.name) → e.polymorphicDiscriminator.isSome = true →
          e.polymorphicDiscriminator = some record.name ∧
          (decl.foreignKey = none → other.foreignKey = none →
            e.childKey = d.role.getD d.name ++ "_id" ∧ d.childKey = d.role.getD d.name ++ "_id") := by
  have hnodup := (catalog.namesNodup_registry.run operations).types_nodup
  generalize catalog.registry.run operations = registry at hnodup ⊢
  refine ⟨_, Environment.parentTypes_eq_ok hd.describe hp registry catalog.schema,
    hnodup.filter _, List.filter_sublist, ?_⟩
  intro record hrecord associations hok
  constructor
  · rw [List.mem_filter]
    show _ ∧ ((catalog.environmentWith registry config).schema.relationships record).any _ = true ↔ _
    rw [Environment.any_declaresRole_iff hok]
    exact and_iff_right hrecord
  · intro other e he hrole hdiscriminator
    obtain ⟨typeName, htype⟩ := Option.isSome_iff_exists.1 hdiscriminator
    constructor
    · rw [htype, he.follows.discriminator_eq typeName htype]
    · intro hkey hother
      exact ⟨Environment.childKey_of_discriminator he.describe hrole hdiscriminator hother,
        Environment.childKey_of_isPolymorphic hd.describe hp hkey⟩

namespace Blog

/-- Posts go and come back, which puts them behind the other types. -/
def changes : List Registry.Operation :=
  [.unregister "Post", .register post.recordType]

/-- The types that are registered then. -/
def changed : Registry :=
  catalog.registry.run changes

end Blog

/-- Comments that were described before any type was registered find photos and posts, in this order, and
photos keep the comments' key. -/
theorem polymorphic_sides_agree_blog :
    ∃ d e, (Blog.catalog.environmentWith .empty .default).Declares Blog.comment.recordType
        Blog.comment.relationships[0] d ∧ d.isPolymorphic = true ∧
      (Blog.catalog.environmentWith Blog.changed .default).Declares Blog.photo.recordType
        Blog.photo.relationships[0] e ∧
      d.parentTypes Blog.changed Blog.catalog.schema =
        .ok [Blog.photo.recordType, Blog.post.recordType] ∧
      [Blog.photo.recordType, Blog.post.recordType].Nodup ∧
      e.polymorphicDiscriminator = some "Photo" ∧ e.childKey = "commentable_id" ∧
      d.childKey = "commentable_id" := by
  have hd : (Blog.catalog.environmentWith .empty .default).Declares Blog.comment.recordType
      Blog.comment.relationships[0] (Environment.describeBelongsTo
        (Blog.catalog.environmentWith .empty .default) Blog.comment.recordType
        Blog.comment.relationships[0]) :=
    ⟨[_], 0, by decide +kernel, rfl, rfl⟩
  have hphoto : (Blog.catalog.environmentWith Blog.changed .default).associations
      Blog.photo.recordType = .ok
        [Environment.describeOwned Blog.photo.recordType .hasOne Blog.photo.relationships[0],
          Environment.describeOwned Blog.photo.recordType .manyToMany Blog.photo.relationships[1]] := by
    decide +kernel
  have htypes : Blog.changed.types =
      [Blog.photo.recordType, Blog.comment.recordType, Blog.post.recordType] := by decide +kernel
  have hparents : Association.parentTypes (Environment.describeBelongsTo
      (Blog.catalog.environmentWith .empty .default) Blog.comment.recordType
      Blog.comment.relationships[0]) Blog.changed Blog.catalog.schema =
        .ok [Blog.photo.recordType, Blog.post.recordType] := by decide +kernel
  obtain ⟨parents, hok, hnodup, -, hagree⟩ :=
    polymorphic_sides_agree Blog.catalog Blog.changes .default hd rfl
  rw [show Blog.catalog.registry.run Blog.changes = Blog.changed from rfl] at hok hagree
  rw [hparents] at hok
  cases hok
  have he : (Blog.catalog.environmentWith Blog.changed .default).Declares Blog.photo.recordType
      Blog.photo.relationships[0] (Environment.describeOwned Blog.photo.recordType .hasOne
        Blog.photo.relationships[0]) :=
    ⟨_, 0, hphoto, rfl, rfl⟩
  obtain ⟨htype, hkeys⟩ :=
    (hagree Blog.photo.recordType (by simp [htypes]) _ hphoto).2 _ _ he rfl rfl
  exact ⟨_, _, hd, rfl, he, hparents, hnodup, htype, (hkeys rfl rfl).1, (hkeys rfl rfl).2⟩

end AdminQuery
