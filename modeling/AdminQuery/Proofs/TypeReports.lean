import AdminQuery.Proofs.CatalogRegistration
import AdminQuery.Proofs.DeclarationChecks

/-!
# Reports on types

A report looks up the types on both sides of every association.  A type that the catalog does not declare is told
where its name would stand, and is no reason to refuse the report.

* `Json.Value.member?`, `Json.Value.IsError`: the member of an object, and an object that tells an error
* `Catalog.Tells`: what the entry of an association tells of its declaration
* `Catalog.WellFormed.resolve_target`: a target is found where the catalog declares it, be it the owner itself
* `Catalog.WellFormed.childReport_describeKind`, `Catalog.WellFormed.parentReport_describeKind`: **both sides of an
  association, by its declaration**
* `Catalog.WellFormed.tells`: the entry of a declaration tells both sides
* `Catalog.WellFormed.typeReport_eq`, `Catalog.WellFormed.exists_entries`: what a report needs, and its entries
* `type_reports_tell_missing_types`: **a report has one entry for each declaration, and in it an error exactly
  where a target is not declared**
-/

namespace AdminQuery

namespace Json.Value

/-! ### Members of objects -/

/-- The member of an object; other values have none. -/
def member? (value : Value) (key : String) : Option Value :=
  match value with
  | .object members => (Keyed.get? Prod.fst members key).map Prod.snd
  | _ => none

/-- An object that tells an error. -/
def IsError (value : Value) : Prop :=
  (value.member? "error").isSome = true

theorem not_isError_text (s : String) : ¬(text s).IsError := by
  simp [IsError, member?]

theorem not_isError_ofTexts (texts : List String) : ¬(ofTexts texts).IsError := by
  simp [IsError, ofTexts, member?]

/-- A member that is written to an object is found there, and the others stay. -/
theorem member?_withMember (members : List (String × Value)) (key other : String) (value : Value) :
    ((object members).withMember key value).member? other =
      if key = other then some value else (object members).member? other := by
  show (Keyed.get? Prod.fst (Keyed.upsert Prod.fst (key, value) members) other).map Prod.snd = _
  by_cases h : key = other
  · subst h
    rw [Keyed.get?_upsert_self Prod.fst (key, value), if_pos rfl]
    rfl
  · have hne : Prod.fst (key, value) ≠ other := h
    rw [Keyed.get?_upsert_of_ne hne, if_neg h]
    rfl

end Json.Value

open Json (Value)

namespace Catalog

variable {catalog : Catalog}

/-! ### What an entry tells -/

/-- The name of a type that the catalog declares. -/
def declaredName (catalog : Catalog) (name : String) : Except AssociationError String :=
  if (catalog.get? name).isSome then .ok name else .error (.unregistered name)

/-- The declarations of a type own records that refer to it in a role. -/
def Plays (decl : TypeDeclaration) (role : String) : Prop :=
  ∃ owned ∈ decl.relationships, (owned.kind.bind AssociationKind.ofToken? = some .hasOne ∨
    owned.kind.bind AssociationKind.ofToken? = some .hasMany) ∧ owned.role = some role

instance (decl : TypeDeclaration) (role : String) : Decidable (Plays decl role) :=
  inferInstanceAs (Decidable (∃ owned ∈ decl.relationships, _ ∧ _))

/-- The names on the parent side of an association that can be told. -/
def parentNames (catalog : Catalog) (owner : TypeDeclaration) (decl : Relationship) (kind : AssociationKind) :
    List String :=
  if kind = .belongsTo then
    if decl.polymorphic then
      (catalog.types.filter fun other => Plays other (decl.role.getD decl.name)).map TypeDeclaration.name
    else [decl.targetName]
  else [owner.name]

/-- What the entry of an association tells of its declaration. -/
structure Tells (catalog : Catalog) (owner : TypeDeclaration) (decl : Relationship) (kind : AssociationKind)
    (entry : Value) : Prop where
  declared : decl.kind.bind AssociationKind.ofToken? = some kind
  named : entry.member? "name" = some (.text decl.name)
  kindNamed : entry.member? "kind" = some (.text kind.name)
  collection : entry.member? "collection" = some (.boolean (kind = .hasMany ∨ kind = .manyToMany))
  /-- The type that holds the key, or an error in its place. -/
  child : ∃ child, entry.member? "resolved_child_type" = some child ∧
    (child.IsError ↔ (kind = .hasOne ∨ kind = .hasMany ∨ kind = .manyToMany) ∧
      catalog.get? decl.targetName = none) ∧
    (child.IsError → child = .object [("error", (AssociationError.unregistered decl.targetName).toJson)]) ∧
    (¬child.IsError → child = .text (if kind = .belongsTo then owner.name else decl.targetName))
  /-- The types that the key refers to, or an error in their place. -/
  parents : ∃ parents, entry.member? "resolved_parent_types" = some parents ∧
    (parents.IsError ↔ kind = .belongsTo ∧ decl.polymorphic = false ∧ catalog.get? decl.targetName = none) ∧
    (parents.IsError → parents = .object [("error", (AssociationError.unregistered decl.targetName).toJson)]) ∧
    (¬parents.IsError → parents = .ofTexts (catalog.parentNames owner decl kind))

/-! ### Looking up types in a catalog -/

section WellFormed

variable {owner : TypeDeclaration} {decl : Relationship}

/-- **A target is found where the catalog declares it**, be it the owner itself. -/
theorem WellFormed.resolve_target (h : catalog.WellFormed) (howner : owner ∈ catalog.types) :
    ((decl.target owner.recordType).resolve catalog.registry).map RecordType.name =
      catalog.declaredName decl.targetName := by
  rw [Relationship.target, declaredName]
  by_cases hself : decl.targetName = owner.recordType.name
  · have hget : catalog.get? decl.targetName = some owner := by
      rw [hself]
      exact get?_of_mem h howner
    rw [if_pos hself, hget, hself]
    rfl
  · rw [if_neg hself, TypeReference.resolve, Registry.lookup, h.find?_registry, recordType?]
    cases hget : catalog.get? decl.targetName with
    | none => rfl
    | some found =>
      have hname : found.name = decl.targetName := by simpa using List.find?_some hget
      exact congrArg Except.ok hname

/-- The relationships that the store tells of a type are those of its declaration. -/
theorem WellFormed.relationships_schema (h : catalog.WellFormed) (howner : owner ∈ catalog.types) :
    catalog.schema.relationships owner.recordType = owner.relationships := by
  have hget : catalog.get? owner.recordType.name = some owner := get?_of_mem h howner
  simp only [schema, hget, Option.map_some, Option.getD_some]

theorem any_declaresRole_iff_plays {role : String} :
    (owner.relationships.any fun owned => owned.declaresRole role) = true ↔ Plays owner role := by
  simp [Plays, Relationship.declaresRole, List.any_eq_true]

/-- The registered types that play a role are those whose declarations do, in the order of the catalog. -/
theorem WellFormed.names_of_role (h : catalog.WellFormed) (role : String) :
    (catalog.registry.types.filter fun record =>
        (catalog.schema.relationships record).any fun owned => owned.declaresRole role).map RecordType.name =
      (catalog.types.filter fun other => Plays other role).map TypeDeclaration.name := by
  rw [h.registry_types, recordTypes, List.filter_map, List.map_map]
  congr 1
  apply List.filter_congr
  intro other hother
  rw [Function.comp_apply, h.relationships_schema hother, Bool.eq_iff_iff, any_declaresRole_iff_plays,
    decide_eq_true_iff]

end WellFormed

/-! ### Both sides of an association -/

section Sides

variable {owner : TypeDeclaration} {decl : Relationship} {config : Config}

/-- **The child side is the owner, or the target of an association that the owner does not hold the key of.** -/
theorem WellFormed.childReport_describeKind (h : catalog.WellFormed) (howner : owner ∈ catalog.types)
    (kind : AssociationKind) :
    (catalog.environment config).childReport
        ((catalog.environment config).describeKind owner.recordType kind decl) =
      if kind = .belongsTo then .ok (.text owner.name)
      else (catalog.declaredName decl.targetName).map Value.text := by
  by_cases hkind : kind = .belongsTo
  · subst hkind
    rfl
  · rw [if_neg hkind, Environment.describeKind_of_ne_belongsTo hkind, ← h.resolve_target howner]
    show ((decl.target owner.recordType).resolve catalog.registry).map _ = _
    cases (decl.target owner.recordType).resolve catalog.registry <;> rfl

/-- **The parent side is the target, or whatever plays the role, or the owner.** -/
theorem WellFormed.parentReport_describeKind (h : catalog.WellFormed) (howner : owner ∈ catalog.types)
    (kind : AssociationKind) :
    (catalog.environment config).parentReport
        ((catalog.environment config).describeKind owner.recordType kind decl) =
      if kind = .belongsTo ∧ decl.polymorphic = false then
        (catalog.declaredName decl.targetName).map fun name => .ofTexts [name]
      else .ok (.ofTexts (catalog.parentNames owner decl kind)) := by
  by_cases hkind : kind = .belongsTo
  · subst hkind
    cases hp : decl.polymorphic with
    | false =>
      rw [if_pos ⟨rfl, rfl⟩, ← h.resolve_target howner]
      simp only [Environment.parentReport, Association.parentTypes, Environment.describeKind,
        Environment.describeBelongsTo, hp]
      show (((decl.target owner.recordType).resolve catalog.registry).map fun record => [record]).map _ = _
      cases (decl.target owner.recordType).resolve catalog.registry <;> rfl
    | true =>
      rw [if_neg (by simp), parentNames, if_pos rfl, if_pos hp, ← h.names_of_role]
      simp only [Environment.parentReport, Association.parentTypes, Environment.describeKind,
        Environment.describeBelongsTo, hp]
      rfl
  · rw [if_neg fun hplain => hkind hplain.1, parentNames, if_neg hkind,
      Environment.describeKind_of_ne_belongsTo hkind]
    rfl

end Sides

/-! ### Entries -/

/-- An entry holds the members of its association and three more. -/
theorem member?_associationReport (env : Environment) (a : Association) (key : String) :
    (env.associationReport a).member? key =
      if "resolved_parent_types" = key then some (valueOrError (env.parentReport a))
      else if "resolved_child_type" = key then some (valueOrError (env.childReport a))
      else if "collection" = key then some (.boolean a.kind.isCollection)
      else a.toJson.member? key := by
  have hobject (members : List (String × Value)) (key : String) (value : Value) :
      (Value.object members).withMember key value = .object (Keyed.upsert Prod.fst (key, value) members) := rfl
  rw [Environment.associationReport, Association.toJson, hobject, hobject, Value.member?_withMember, ← hobject,
    Value.member?_withMember, ← hobject, Value.member?_withMember]

theorem isCollection_eq (kind : AssociationKind) :
    kind.isCollection = decide (kind = .hasMany ∨ kind = .manyToMany) := by
  cases kind <;> rfl

/-- A name that the catalog does not declare is told as an error, any other as what is said of it. -/
theorem told_declaredName {tell : String → Value} (htell : ∀ name, ¬(tell name).IsError) (name : String) :
    ((valueOrError ((catalog.declaredName name).map tell)).IsError ↔ catalog.get? name = none) ∧
    ((valueOrError ((catalog.declaredName name).map tell)).IsError →
      valueOrError ((catalog.declaredName name).map tell) =
        .object [("error", (AssociationError.unregistered name).toJson)]) ∧
    (¬(valueOrError ((catalog.declaredName name).map tell)).IsError →
      valueOrError ((catalog.declaredName name).map tell) = tell name) := by
  rw [declaredName]
  cases hget : catalog.get? name with
  | none =>
    have herror : (Value.object [("error", (AssociationError.unregistered name).toJson)]).IsError := by
      simp [Value.IsError, Value.member?, Keyed.get?]
    exact ⟨iff_of_true herror rfl, fun _ => rfl, fun hnot => absurd herror hnot⟩
  | some found => exact ⟨iff_of_false (htell name) (by simp), fun herror => absurd herror (htell name), fun _ => rfl⟩

/-- **The entry of an association tells what its declaration says.** -/
theorem WellFormed.tells (h : catalog.WellFormed) {config : Config} {owner : TypeDeclaration}
    (howner : owner ∈ catalog.types) {decl : Relationship} {a : Association}
    (ha : (catalog.environment config).describe owner.recordType decl = .ok a) :
    ∃ kind, catalog.Tells owner decl kind ((catalog.environment config).associationReport a) := by
  obtain ⟨kind, hkind, rfl, -⟩ := Environment.describe_eq_ok_iff.1 ha
  have hfollows := Environment.follows_of_describe ha
  generalize hentry : (catalog.environment config).associationReport _ = entry
  have hchild : entry.member? "resolved_child_type" = some (valueOrError
      ((catalog.environment config).childReport
        ((catalog.environment config).describeKind owner.recordType kind decl))) := by
    rw [← hentry, member?_associationReport, if_neg (by decide), if_pos rfl]
  have hparents : entry.member? "resolved_parent_types" = some (valueOrError
      ((catalog.environment config).parentReport
        ((catalog.environment config).describeKind owner.recordType kind decl))) := by
    rw [← hentry, member?_associationReport, if_pos rfl]
  rw [h.childReport_describeKind howner] at hchild
  rw [h.parentReport_describeKind howner] at hparents
  refine ⟨kind, (Relationship.checkedKind_eq_ok_iff.1 hkind).2.1, ?_, ?_, ?_, ⟨_, hchild, ?_⟩, ⟨_, hparents, ?_⟩⟩
  · rw [← hentry, member?_associationReport, ← hfollows.name]
    simp [Association.toJson, Value.member?, Keyed.get?]
  · rw [← hentry, member?_associationReport]
    simp [Association.toJson, Value.member?, Keyed.get?, Environment.kind_describeKind]
  · rw [← hentry, member?_associationReport]
    simp [isCollection_eq, Environment.kind_describeKind]
  · by_cases hbelongs : kind = .belongsTo
    · subst hbelongs
      exact ⟨by simp [valueOrError, Value.not_isError_text], fun herror => absurd herror (Value.not_isError_text _),
        fun _ => rfl⟩
    · have howned : kind = .hasOne ∨ kind = .hasMany ∨ kind = .manyToMany := by
        cases kind <;> simp_all
      rw [if_neg hbelongs, if_neg hbelongs, and_iff_right howned]
      exact told_declaredName Value.not_isError_text decl.targetName
  · by_cases hsingle : kind = .belongsTo ∧ decl.polymorphic = false
    · rw [if_pos hsingle, and_iff_right hsingle.1, and_iff_right hsingle.2, parentNames, if_pos hsingle.1,
        hsingle.2]
      exact told_declaredName (fun name => Value.not_isError_ofTexts [name]) decl.targetName
    · rw [if_neg hsingle]
      exact ⟨iff_of_false (Value.not_isError_ofTexts _) fun hplain => hsingle ⟨hplain.1, hplain.2.1⟩,
        fun herror => absurd herror (Value.not_isError_ofTexts _), fun _ => rfl⟩

/-! ### Reports -/

/-- The report on a type whose associations are described. -/
def reportOf (catalog : Catalog) (config : Config) (record : RecordType) (associations : List Association) :
    Value :=
  .object [("type", .text record.name), ("table", .text record.tableName),
    ("primary_key", .text record.primaryKey),
    ("fields", .array ((catalog.schema.fields record).map Field.toJson)),
    ("associations", .array (associations.map (catalog.environment config).associationReport))]

variable {config : Config} {typeName : String}

/-- **A report needs a type that is declared, and associations that can be described.** -/
theorem WellFormed.typeReport_eq (h : catalog.WellFormed) :
    (catalog.environment config).typeReport typeName = match catalog.get? typeName with
      | some decl => ((catalog.environment config).associations decl.recordType).map
          (catalog.reportOf config decl.recordType)
      | none => .error (.unregistered typeName) := by
  show (catalog.registry.lookup typeName >>= fun record => _) = _
  rw [Registry.lookup, h.find?_registry, recordType?]
  cases hget : catalog.get? typeName with
  | none => rfl
  | some decl =>
    have hname : decl.recordType.name = typeName := by simpa using List.find?_some hget
    show ((catalog.environment config).associations decl.recordType >>= fun associations => _) = Except.map _ _
    cases (catalog.environment config).associations decl.recordType with
    | error e => rfl
    | ok associations =>
      show _ = Except.ok (catalog.reportOf config decl.recordType associations)
      rw [reportOf, hname]
      rfl

theorem WellFormed.typeReport_eq_error_iff (h : catalog.WellFormed) {e : AssociationError} :
    (catalog.environment config).typeReport typeName = .error e ↔
      (catalog.get? typeName = none ∧ e = .unregistered typeName) ∨
        ∃ decl, catalog.get? typeName = some decl ∧
          (catalog.environment config).associations decl.recordType = .error e := by
  rw [h.typeReport_eq]
  cases catalog.get? typeName with
  | none => simp [eq_comm]
  | some decl => simp [Fallible.map_eq_error_iff]

/-- **A report has one entry for each declaration, in order.** -/
theorem WellFormed.exists_entries (h : catalog.WellFormed) {report : Value}
    (hreport : (catalog.environment config).typeReport typeName = .ok report) :
    ∃ owner entries, catalog.get? typeName = some owner ∧ report.member? "associations" = some (.array entries) ∧
      List.Forall₂ (fun decl entry => ∃ kind, catalog.Tells owner decl kind entry) owner.relationships entries := by
  rw [h.typeReport_eq] at hreport
  cases hget : catalog.get? typeName with
  | none => simp [hget] at hreport
  | some owner =>
    rw [hget] at hreport
    obtain ⟨associations, hok, rfl⟩ := Fallible.map_eq_ok_iff.1 hreport
    have howner : owner ∈ catalog.types := List.mem_of_find?_eq_some hget
    refine ⟨owner, _, rfl, by simp [reportOf, Value.member?, Keyed.get?]; rfl, ?_⟩
    rw [List.forall₂_map_right_iff, ← h.relationships_schema howner]
    apply (Fallible.mapM_eq_ok_iff.1 hok).imp
    intro decl a ha
    exact h.tells howner ha

end Catalog

/-- **A report tells types that are not declared where they are missed.**  It fails for a type that is not
declared, or whose associations cannot be described, and has one entry for each declaration otherwise.  An entry
tells an error for its child side exactly when the association owns records of a type that is not declared, and
for its parent side exactly when it belongs to such a type and is not polymorphic; otherwise it tells the names of
the types. -/
theorem type_reports_tell_missing_types {catalog : Catalog} (h : catalog.Reachable) (config : Config)
    (typeName : String) :
    (∀ e, (catalog.environment config).typeReport typeName = .error e ↔
      (catalog.get? typeName = none ∧ e = .unregistered typeName) ∨
        ∃ owner, catalog.get? typeName = some owner ∧
          (catalog.environment config).associations owner.recordType = .error e) ∧
    ∀ report, (catalog.environment config).typeReport typeName = .ok report →
      ∃ owner entries, catalog.get? typeName = some owner ∧
        report.member? "associations" = some (.array entries) ∧
        List.Forall₂ (fun decl entry => ∃ kind, catalog.Tells owner decl kind entry) owner.relationships entries :=
  ⟨fun _ => h.wellFormed.typeReport_eq_error_iff, fun _ => h.wellFormed.exists_entries⟩

namespace Blog

/-- Drafts belong to a post, to an author of an undeclared type, and to whatever has comments, and have revisions of
an undeclared type. -/
def draft : TypeDeclaration where
  name := "Draft"
  table := none
  primaryKey := none
  columns := [.ofNameType "id" "integer"]
  relationships :=
    [Relationship.ofKind "belongs_to" "post", Relationship.ofKind "belongs_to" "author",
      { Relationship.ofKind "belongs_to" "subject" with role := some "commentable", polymorphic := true },
      Relationship.ofKind "has_many" "revisions"]

/-- The types of the blog, with drafts. -/
def drafted : Catalog :=
  ⟨[post, photo, comment, draft]⟩

theorem reachable_drafted : drafted.Reachable := by
  have hall : Catalog.empty.registerAll [post, photo, comment, draft] = .ok drafted := by decide +kernel
  exact Catalog.Reachable.empty.registerAll hall

end Blog

open Blog Catalog in
/-- The author and the revisions of a draft are told as errors, each on the side where the type is missed, and the
subject by the names of the types that have comments. -/
theorem type_reports_tell_missing_types_blog :
    drafted.Reachable ∧
    (drafted.environment .default).typeReport "Author" = .error (.unregistered "Author") ∧
    ∃ report first author subject revisions,
      (drafted.environment .default).typeReport "Draft" = .ok report ∧
      report.member? "associations" = some (.array [first, author, subject, revisions]) ∧
      first.member? "resolved_parent_types" = some (.ofTexts ["Post"]) ∧
      author.member? "resolved_child_type" = some (.text "Draft") ∧
      author.member? "resolved_parent_types" =
        some (.object [("error", (AssociationError.unregistered "Author").toJson)]) ∧
      subject.member? "resolved_parent_types" = some (.ofTexts ["Post", "Photo"]) ∧
      revisions.member? "resolved_child_type" =
        some (.object [("error", (AssociationError.unregistered "Revision").toJson)]) ∧
      revisions.member? "resolved_parent_types" = some (.ofTexts ["Draft"]) ∧
      revisions.member? "collection" = some (.boolean true) := by
  obtain ⟨hfails, -⟩ := type_reports_tell_missing_types reachable_drafted .default "Author"
  obtain ⟨-, htells⟩ := type_reports_tell_missing_types reachable_drafted .default "Draft"
  have hok : ((drafted.environment .default).typeReport "Draft").isOk = true := by decide +kernel
  cases hreport : (drafted.environment .default).typeReport "Draft" with
  | error e => simp [hreport, Except.isOk, Except.toBool] at hok
  | ok report =>
    obtain ⟨owner, entries, howner, hentries, hall⟩ := htells report hreport
    obtain rfl : draft = owner := Option.some.inj (howner.symm.trans (by decide +kernel)).symm
    match entries, hall with
    | [first, author, subject, revisions],
        .cons ⟨_, hfirst⟩ (.cons ⟨_, hauthor⟩ (.cons ⟨_, hsubject⟩ (.cons ⟨_, hrevisions⟩ .nil))) =>
      cases hfirst.declared
      cases hauthor.declared
      cases hsubject.declared
      cases hrevisions.declared
      obtain ⟨_, hpost, hmissing, -, hnames⟩ := hfirst.parents
      rw [hnames (mt hmissing.1 (by decide +kernel))] at hpost
      obtain ⟨_, hdraft, hmissing, -, hname⟩ := hauthor.child
      rw [hname (mt hmissing.1 (by decide +kernel))] at hdraft
      obtain ⟨_, hperson, hmissing, herror, -⟩ := hauthor.parents
      rw [herror (hmissing.2 (by decide +kernel))] at hperson
      obtain ⟨_, hrole, hmissing, -, hnames⟩ := hsubject.parents
      rw [hnames (mt hmissing.1 (by decide +kernel))] at hrole
      obtain ⟨_, hrevision, hmissing, herror, -⟩ := hrevisions.child
      rw [herror (hmissing.2 (by decide +kernel))] at hrevision
      obtain ⟨_, howned, hmissing, -, hnames⟩ := hrevisions.parents
      rw [hnames (mt hmissing.1 (by decide +kernel))] at howned
      refine ⟨reachable_drafted, (hfails _).2 (.inl ⟨by decide +kernel, rfl⟩), report, first, author, subject,
        revisions, rfl, hentries, ?_, hdraft, ?_, ?_, ?_, howned, hrevisions.collection⟩
      · exact hpost
      · exact hperson
      · exact hrole
      · exact hrevision

end AdminQuery
