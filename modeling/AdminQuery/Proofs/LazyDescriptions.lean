import AdminQuery.Proofs.DeclarationChecks

/-!
# Descriptions look nothing up

Types on the far side of an association are looked up when they are asked for.  A description reads the
registry for one thing: the primary key of a parent that the declaration does not name.

* `Registry.KeysAreIdentifiers`: the primary keys of the registered types are identifiers
* `AlikeButForKey`: two descriptions of a declaration that differ in such a key only
* `FirstFault.relink`: **a declaration is refused for the same reason with another registry**
* `agree_describe`: **and described alike**
* `resolve_of_hasAssociation`: a single target is found in the registry, whether it was at hand or not
* `descriptions_are_lazy`: both, for all associations of a record type
-/

namespace AdminQuery

/-- The primary keys of the registered types are identifiers. -/
def Registry.KeysAreIdentifiers (registry : Registry) : Prop :=
  ∀ record ∈ registry.types, Text.isIdentifier record.primaryKey = true

/-- What is found in such a registry has an identifier for its key. -/
theorem Registry.KeysAreIdentifiers.of_find? {registry : Registry} (h : registry.KeysAreIdentifiers)
    {name : String} (record : RecordType) (hfind : registry.find? name = some record) :
    Text.isIdentifier record.primaryKey = true :=
  h record (List.mem_of_find?_eq_some hfind)

/-- Two descriptions of a declaration, one with each registry: they are equal in all fields except the
parent key, and also there unless the declaration leaves it open; then it is the primary key of the target
in the registry, or the default where the target is not registered. -/
structure AlikeButForKey (config : Config) (first second : Registry) (owner : RecordType)
    (decl : Relationship) (a b : Association) : Prop where
  others : b = { a with parentKey := b.parentKey }
  settled : ¬decl.LeavesKeyOpen owner a.kind → b.parentKey = a.parentKey
  left_open : decl.LeavesKeyOpen owner a.kind →
    a.parentKey = [first.primaryKeyOf decl.targetName config.defaultPrimaryKey] ∧
      b.parentKey = [second.primaryKeyOf decl.targetName config.defaultPrimaryKey]

namespace Environment

variable {env : Environment} {owner : RecordType} {decl : Relationship} {kind : AssociationKind}
  {registry : Registry}

/-! ### One declaration -/

/-- **A declaration that is refused is refused for the same reason with another registry.** -/
theorem FirstFault.relink (hdefault : Text.isIdentifier env.config.defaultPrimaryKey = true)
    (hheld : env.registry.KeysAreIdentifiers) (hkeys : registry.KeysAreIdentifiers)
    {reason : Misconfiguration} (h : env.FirstFault owner decl reason) :
    { env with registry := registry }.FirstFault owner decl reason := by
  cases h with
  | kind hkind => exact .kind hkind
  | @parentKey kind hkind hparent =>
    -- The key that is refused is not one that the registry decides.
    have hsettled : ¬decl.LeavesKeyOpen owner kind := by
      intro hopen
      rw [isIdentifier_parentKey_of_open hdefault hheld.of_find? hopen] at hparent
      cases hparent
    rw [← parentKey_of_not_open hsettled registry] at hparent ⊢
    exact .parentKey hkind hparent
  | childKey hkind hparent hchild =>
    have hkey := isIdentifier_parentKey_relink hdefault (fun _ => hkeys.of_find?) hparent
    exact .childKey hkind hkey hchild
  | typeColumn hkind hparent hchild htype hcolumn =>
    have hkey := isIdentifier_parentKey_relink hdefault (fun _ => hkeys.of_find?) hparent
    exact .typeColumn hkind hkey hchild htype hcolumn

/-- With another registry, a description differs in its parent key only. -/
theorem describeKind_relink : { env with registry := registry }.describeKind owner kind decl =
    { env.describeKind owner kind decl with
      parentKey := [{ env with registry := registry }.parentKey owner kind decl] } := by
  rw [← parentKey_describeKind]
  cases kind <;> rfl

/-- **A declaration is described alike with two registries.** -/
theorem agree_describe (hdefault : Text.isIdentifier env.config.defaultPrimaryKey = true)
    (hheld : env.registry.KeysAreIdentifiers) (hkeys : registry.KeysAreIdentifiers) :
    Fallible.Agree (AlikeButForKey env.config env.registry registry owner decl)
      (env.describe owner decl) ({ env with registry := registry }.describe owner decl) := by
  cases hdescribe : env.describe owner decl with
  | error e =>
    obtain ⟨reason, hfault, he⟩ := describe_eq_error_iff.1 hdescribe
    rw [describe_eq_error_iff.2 ⟨reason, hfault.relink hdefault hheld hkeys, he⟩]
    exact .error e
  | ok a =>
    obtain ⟨kind, haccepts, rfl⟩ := describe_eq_ok_iff_accepts.1 hdescribe
    rw [describe_eq_ok_iff_accepts.2 ⟨kind, haccepts.relink hdefault fun _ => hkeys.of_find?, rfl⟩]
    refine .ok ⟨by rw [describeKind_relink], ?_, ?_⟩
    · intro hsettled
      rw [kind_describeKind] at hsettled
      rw [parentKey_describeKind, parentKey_describeKind, parentKey_of_not_open hsettled]
    · intro hopen
      rw [kind_describeKind] at hopen
      rw [parentKey_describeKind, parentKey_describeKind, parentKey_of_open hopen,
        parentKey_of_open hopen]
      exact ⟨rfl, rfl⟩

/-! ### Looking up targets -/

/-- Where the owner is registered under its own name, a target that was at hand is what the registry
finds. -/
theorem resolve_of_hasAssociation {a : Association} {reference : TypeReference}
    (ha : env.HasAssociation owner a) (htarget : a.target? = some reference)
    (howner : registry.find? owner.name = some owner) :
    reference.resolve registry = match registry.find? reference.typeName with
      | some record => .ok record
      | none => .error (.unregistered reference.typeName) := by
  cases reference with
  | resolved other =>
    rw [ha.eq_of_resolved htarget, TypeReference.typeName, howner]
    rfl
  | unresolved name => rfl

end Environment

/-- **The associations of a record type are described without looking anything up.**  With two registries
whose primary keys are identifiers, they fail with the same error, or are alike declaration by declaration,
up to the parent keys that declarations leave open.  Where the owner is registered under its own name, the
single target of an association is what a registry finds under its name, and an error where it finds
nothing. -/
theorem descriptions_are_lazy (schema : Schema) (config : Config) (owner : RecordType) :
    (Text.isIdentifier config.defaultPrimaryKey = true → ∀ first second : Registry,
      first.KeysAreIdentifiers → second.KeysAreIdentifiers →
      Fallible.Agree
        (Forall₃ (AlikeButForKey config first second owner) (schema.relationships owner))
        ((⟨schema, first, config⟩ : Environment).associations owner)
        ((⟨schema, second, config⟩ : Environment).associations owner)) ∧
    ∀ first second : Registry, second.find? owner.name = some owner →
      ∀ associations, (⟨schema, first, config⟩ : Environment).associations owner = .ok associations →
      ∀ a ∈ associations, ∀ reference, a.target? = some reference →
        reference.resolve second = match second.find? reference.typeName with
          | some record => .ok record
          | none => .error (.unregistered reference.typeName) := by
  constructor
  · intro hdefault first second hfirst hsecond
    apply Fallible.agree_mapM_same
    intro decl _
    exact @Environment.agree_describe ⟨schema, first, config⟩ owner decl second hdefault hfirst hsecond
  · intro first second howner associations hok a ha reference htarget
    exact Environment.resolve_of_hasAssociation ⟨associations, hok, ha⟩ htarget howner

namespace Blog

/-- Captions belong to a photo, and to the caption that they were made from. -/
def caption : TypeDeclaration where
  name := "Caption"
  table := none
  primaryKey := none
  columns := [.ofNameType "id" "integer"]
  relationships :=
    [Relationship.ofKind "belongs_to" "photo",
      { Relationship.ofKind "belongs_to" "original" with className := some "Caption" }]

/-- The types of the blog, with captions. -/
def captioned : Catalog :=
  ⟨[post, photo, comment, caption]⟩

end Blog

/-- Described while nothing is registered, a caption takes the default key for its photo; the photo is found
once it is registered, and has another key.  Captions know their own key from the start. -/
theorem descriptions_are_lazy_blog :
    ∃ early late original : Association,
      (⟨Blog.captioned.schema, .empty, .default⟩ : Environment).associations
        Blog.caption.recordType = .ok [early, original] ∧
      (⟨Blog.captioned.schema, Blog.captioned.registry, .default⟩ : Environment).associations
        Blog.caption.recordType = .ok [late, original] ∧
      AlikeButForKey .default .empty Blog.captioned.registry Blog.caption.recordType
        Blog.caption.relationships[0] early late ∧
      early.parentKey = ["id"] ∧ late.parentKey = ["serial"] ∧
      TypeReference.resolve Blog.captioned.registry (.unresolved "Photo") =
        .ok Blog.photo.recordType := by
  have hearly : (⟨Blog.captioned.schema, .empty, .default⟩ : Environment).associations
      Blog.caption.recordType = .ok
        (Blog.caption.relationships.map (Environment.describeBelongsTo
          ⟨Blog.captioned.schema, .empty, .default⟩ Blog.caption.recordType)) := by
    decide +kernel
  have hlate : (⟨Blog.captioned.schema, Blog.captioned.registry, .default⟩ :
      Environment).associations Blog.caption.recordType = .ok
        (Blog.caption.relationships.map (Environment.describeBelongsTo
          ⟨Blog.captioned.schema, Blog.captioned.registry, .default⟩ Blog.caption.recordType)) := by
    decide +kernel
  have hkeys : Blog.captioned.registry.KeysAreIdentifiers := by
    unfold Registry.KeysAreIdentifiers
    decide +kernel
  obtain ⟨halike, hresolve⟩ :=
    descriptions_are_lazy Blog.captioned.schema .default Blog.caption.recordType
  have hagree := halike (by decide +kernel) .empty Blog.captioned.registry nofun hkeys
  rw [hearly, hlate] at hagree
  cases hagree with
  | ok hentries =>
    cases hentries with
    | cons hphoto _ =>
      refine ⟨_, _, _, hearly, hlate, hphoto, by decide +kernel, by decide +kernel, ?_⟩
      rw [hresolve .empty Blog.captioned.registry (by decide +kernel) _ hearly _ List.mem_cons_self
        (.unresolved "Photo") (by decide +kernel)]
      decide +kernel

end AdminQuery
