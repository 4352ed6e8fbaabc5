import AdminQuery.Proofs.Descriptions

/-!
# How declarations are checked

A declaration is refused for the first thing that is wrong with it: its name, its kind, then the key columns
that it names or that follow from it.  Which keys follow depends on the kind, the role, the owner and, for a
record that belongs to another, on what is registered.

* `AssociationKind.tokens`: the tokens of a kind
* `Relationship.HasKind`, `Relationship.KindFault`: what a declaration needs to have a kind, and what it
  lacks first
* `Environment.parentKey`, `Relationship.childKey`, `Relationship.typeColumn?`: the key columns of a
  declaration
* `Environment.Accepts`, `Environment.FirstFault`: what a declaration needs, and what it lacks first
* `describe_eq_ok_iff_accepts`, `describe_eq_error_iff`: **a declaration is described exactly when it is
  accepted**, and refused for its first fault
* `Accepts.relink`, `Accepts.forget`: what is accepted stays so with another registry, if the keys there
  are identifiers; types that are not registered make no declaration fail
* `declarations_are_checked_in_order`: **all declarations of a record type are described, or the first bad
  one is refused**
-/

namespace AdminQuery

/-! ### Kinds -/

/-- The tokens of a kind. -/
def AssociationKind.tokens : AssociationKind → List String
  | belongsTo => ["belongs_to"]
  | hasOne => ["has_one"]
  | hasMany => ["has_many"]
  | manyToMany => ["many_to_many", "has_and_belongs_to_many"]

/-- A token has the kind whose tokens it is one of, blanks around it aside. -/
theorem AssociationKind.ofToken?_eq_some_iff {token : String} {kind : AssociationKind} :
    ofToken? token = some kind ↔ Text.trim token ∈ kind.tokens := by
  rw [ofToken?]
  generalize Text.trim token = plain
  split
  · rename_i h
    subst h
    cases kind <;> simp [tokens]
  · rename_i hbelongs
    split
    · rename_i h
      subst h
      cases kind <;> simp [tokens]
    · rename_i hone
      split
      · rename_i h
        subst h
        cases kind <;> simp [tokens]
      · rename_i hmany
        split
        · rename_i h
          rcases h with rfl | rfl <;> cases kind <;> simp [tokens]
        · rename_i htable
          rw [not_or] at htable
          cases kind <;> simp [tokens, hbelongs, hone, hmany, htable]

theorem AssociationKind.ofToken?_eq_none_iff {token : String} :
    ofToken? token = none ↔ ∀ kind : AssociationKind, Text.trim token ∉ kind.tokens := by
  rw [Option.eq_none_iff_forall_ne_some]
  exact forall_congr' fun kind => not_congr ofToken?_eq_some_iff

namespace Relationship

variable {decl : Relationship} {kind : AssociationKind}

/-- The declaration has a name and a token of this kind, and is polymorphic only if it belongs to its
parent. -/
structure HasKind (decl : Relationship) (kind : AssociationKind) : Prop where
  name : Text.trim decl.name ≠ ""
  token : ∃ token, decl.kind = some token ∧ Text.trim token ∈ kind.tokens
  polymorphic : decl.polymorphic = true → kind = .belongsTo

/-- A relationship with nothing but a kind and a name. -/
theorem hasKind_ofKind {token name : String} (hname : Text.trim name ≠ "")
    (htoken : Text.trim token ∈ kind.tokens) : (ofKind token name).HasKind kind where
  name := hname
  token := ⟨token, rfl, htoken⟩
  polymorphic := nofun

/-- What is owned is of one type. -/
theorem HasKind.not_polymorphic (h : decl.HasKind kind) (howned : kind ≠ .belongsTo) :
    decl.polymorphic = false := by
  cases hp : decl.polymorphic with
  | false => rfl
  | true => exact absurd (h.polymorphic hp) howned

/-- What a declaration lacks first to have a kind. -/
inductive KindFault (decl : Relationship) : Misconfiguration → Prop where
  | emptyName : Text.trim decl.name = "" → KindFault decl .emptyName
  | missingKind : Text.trim decl.name ≠ "" → decl.kind = none → KindFault decl .missingKind
  | unknownKind {token : String} : Text.trim decl.name ≠ "" → decl.kind = some token →
    (∀ kind : AssociationKind, Text.trim token ∉ kind.tokens) → KindFault decl (.unknownKind token)
  | polymorphicKind {token : String} {kind : AssociationKind} : Text.trim decl.name ≠ "" →
    decl.kind = some token → Text.trim token ∈ kind.tokens → decl.polymorphic = true →
    kind ≠ .belongsTo → KindFault decl (.polymorphicKind kind)

theorem isAllBlank_eq_false_iff {s : String} : Text.isAllBlank s = false ↔ Text.trim s ≠ "" := by
  rw [← Bool.not_eq_true, Text.isAllBlank_iff_trim]

/-- A kind passes the checks when the declaration has it. -/
theorem checkedKind_eq_ok_iff_hasKind : decl.checkedKind = .ok kind ↔ decl.HasKind kind := by
  rw [checkedKind_eq_ok_iff, isAllBlank_eq_false_iff, Option.bind_eq_some_iff]
  simp only [AssociationKind.ofToken?_eq_some_iff]
  exact ⟨fun ⟨hname, htoken, hp⟩ => ⟨hname, htoken, hp⟩, fun ⟨hname, htoken, hp⟩ => ⟨hname, htoken, hp⟩⟩

/-- The kind of a declaration is refused for what it lacks first. -/
theorem checkedKind_eq_error_iff {reason : Misconfiguration} :
    decl.checkedKind = .error reason ↔ decl.KindFault reason := by
  constructor
  · intro h
    rw [checkedKind] at h
    split at h
    · rename_i hname
      cases h
      exact .emptyName (Text.isAllBlank_iff_trim.1 hname)
    · rename_i hname
      replace hname : Text.trim decl.name ≠ "" := fun heq => hname (Text.isAllBlank_iff_trim.2 heq)
      split at h
      · rename_i hkind
        cases h
        exact .missingKind hname hkind
      · rename_i token hkind
        split at h
        · rename_i htoken
          cases h
          exact .unknownKind hname hkind (AssociationKind.ofToken?_eq_none_iff.1 htoken)
        · rename_i kind htoken
          split at h
          · rename_i hp
            cases h
            exact .polymorphicKind hname hkind (AssociationKind.ofToken?_eq_some_iff.1 htoken) hp.1 hp.2
          · cases h
  · intro h
    cases h with
    | emptyName hname => rw [checkedKind, if_pos (Text.isAllBlank_iff_trim.2 hname)]
    | missingKind hname hkind =>
      rw [checkedKind, isAllBlank_eq_false_iff.2 hname, hkind]
      rfl
    | unknownKind hname hkind htoken =>
      rw [checkedKind, isAllBlank_eq_false_iff.2 hname, hkind]
      simp [AssociationKind.ofToken?_eq_none_iff.2 htoken]
    | polymorphicKind hname hkind htoken hp hother =>
      rw [checkedKind, isAllBlank_eq_false_iff.2 hname, hkind]
      simp [AssociationKind.ofToken?_eq_some_iff.2 htoken, hp, hother]

/-! ### Key columns -/

/-- The child key of a declaration: the one it names; else the role, or the name, of a record that belongs
to another; else the role of the owner, or what refers to the owner by convention. -/
def childKey (owner : RecordType) (kind : AssociationKind) (decl : Relationship) : String :=
  match decl.foreignKey, kind, decl.role with
  | some key, _, _ => key
  | none, .belongsTo, some role => role ++ "_id"
  | none, .belongsTo, none => decl.name ++ "_id"
  | none, .manyToMany, _ => owner.referenceKey
  | none, _, some role => role ++ "_id"
  | none, _, none => owner.referenceKey

/-- The column for the type of the parent, which only a polymorphic declaration has: the one it names, else
one named after its role or its name. -/
def typeColumn? (decl : Relationship) : Option String :=
  match decl.polymorphic, decl.foreignType, decl.role with
  | false, _, _ => none
  | true, some column, _ => some column
  | true, none, some role => some (role ++ "_type")
  | true, none, none => some (decl.name ++ "_type")

/-- The parent key is left to the registry: a record belongs to one of another type, whose key the
declaration does not name. -/
structure LeavesKeyOpen (decl : Relationship) (owner : RecordType) (kind : AssociationKind) : Prop where
  kind : kind = .belongsTo
  polymorphic : decl.polymorphic = false
  primaryKey : decl.primaryKey = none
  target : decl.targetName ≠ owner.name

end Relationship

/-- The primary key of the type with a name, or `otherwise` where no such type is registered. -/
def Registry.primaryKeyOf (registry : Registry) (typeName otherwise : String) : String :=
  match registry.find? typeName with
  | some record => record.primaryKey
  | none => otherwise

namespace Environment

variable {env : Environment} {owner : RecordType} {decl : Relationship} {kind : AssociationKind}
  {registry : Registry}

/-- The parent key of a declaration: the one it names; else the primary key of the owner, or, for a record
that belongs to another, of the parent, where it can be told. -/
def parentKey (env : Environment) (owner : RecordType) (kind : AssociationKind) (decl : Relationship) :
    String :=
  match decl.primaryKey, kind with
  | some key, _ => key
  | none, .belongsTo =>
    if decl.polymorphic then env.config.defaultPrimaryKey
    else if decl.targetName = owner.name then owner.primaryKey
    else env.registry.primaryKeyOf decl.targetName env.config.defaultPrimaryKey
  | none, _ => owner.primaryKey

/-- Where the declaration leaves the parent key open, the registry has it, or the configuration. -/
theorem parentKey_of_open (h : decl.LeavesKeyOpen owner kind) :
    env.parentKey owner kind decl =
      env.registry.primaryKeyOf decl.targetName env.config.defaultPrimaryKey := by
  simp [parentKey, h.kind, h.polymorphic, h.primaryKey, h.target]

/-- Nothing else that a parent key is made of comes from the registry. -/
theorem parentKey_of_not_open (h : ¬decl.LeavesKeyOpen owner kind) (registry : Registry) :
    { env with registry := registry }.parentKey owner kind decl = env.parentKey owner kind decl := by
  cases hkey : decl.primaryKey with
  | some key => simp [parentKey, hkey]
  | none =>
    cases kind with
    | belongsTo =>
      cases hp : decl.polymorphic with
      | true => simp [parentKey, hkey, hp]
      | false =>
        have htarget : decl.targetName = owner.name := by
          by_contra hne
          exact h ⟨rfl, hp, hkey, hne⟩
        simp [parentKey, hkey, hp, htarget]
    | hasOne => simp [parentKey, hkey]
    | hasMany => simp [parentKey, hkey]
    | manyToMany => simp [parentKey, hkey]

theorem kind_describeKind : (env.describeKind owner kind decl).kind = kind := by
  cases kind <;> rfl

theorem parentKey_describeKind : (env.describeKind owner kind decl).parentKey =
    [env.parentKey owner kind decl] := by
  have hbelongs : env.parentKeyOf (decl.target owner) =
      if decl.targetName = owner.name then owner.primaryKey
      else env.registry.primaryKeyOf decl.targetName env.config.defaultPrimaryKey := by
    rw [Relationship.target]
    split
    · rfl
    · rw [parentKeyOf, Registry.primaryKeyOf]
      cases env.registry.find? decl.targetName <;> rfl
  cases hkey : decl.primaryKey with
  | some key =>
    cases kind <;> simp [describeKind, describeBelongsTo, describeOwned, parentKey, hkey]
  | none =>
    cases kind <;> simp [describeKind, describeBelongsTo, describeOwned, parentKey, hkey, hbelongs]

theorem childKey_describeKind : (env.describeKind owner kind decl).childKey =
    decl.childKey owner kind := by
  cases hkey : decl.foreignKey <;> cases hrole : decl.role <;> cases kind <;>
    simp [describeKind, describeBelongsTo, describeOwned, Relationship.childKey, hkey, hrole]

theorem foreignTypeColumn_describeKind (h : decl.HasKind kind) :
    (env.describeKind owner kind decl).foreignTypeColumn = decl.typeColumn? := by
  cases hp : decl.polymorphic with
  | false =>
    cases kind <;> simp [describeKind, describeBelongsTo, describeOwned, Relationship.typeColumn?, hp]
  | true =>
    rw [h.polymorphic hp]
    cases hcolumn : decl.foreignType <;> cases hrole : decl.role <;>
      simp [describeKind, describeBelongsTo, Relationship.typeColumn?, hp, hcolumn, hrole]

/-- The key columns of an association are those of its declaration. -/
theorem keyColumns_describeKind (h : decl.HasKind kind) :
    (env.describeKind owner kind decl).keyColumns =
      env.parentKey owner kind decl :: decl.childKey owner kind :: decl.typeColumn?.toList := by
  rw [Association.keyColumns, parentKey_describeKind, childKey_describeKind,
    foreignTypeColumn_describeKind h]
  rfl

/-! ### What is accepted, and what is refused -/

/-- A declaration that is accepted: it has a kind, and its key columns are identifiers. -/
structure Accepts (env : Environment) (owner : RecordType) (decl : Relationship)
    (kind : AssociationKind) : Prop where
  hasKind : decl.HasKind kind
  parentKey : Text.isIdentifier (env.parentKey owner kind decl) = true
  childKey : Text.isIdentifier (decl.childKey owner kind) = true
  typeColumn : ∀ column, decl.typeColumn? = some column → Text.isIdentifier column = true

/-- What a declaration that is refused lacks first. -/
inductive FirstFault (env : Environment) (owner : RecordType) (decl : Relationship) :
    Misconfiguration → Prop where
  | kind {reason : Misconfiguration} : decl.KindFault reason → FirstFault env owner decl reason
  | parentKey {kind : AssociationKind} : decl.HasKind kind →
    Text.isIdentifier (env.parentKey owner kind decl) = false →
    FirstFault env owner decl (.invalidColumn (env.parentKey owner kind decl))
  | childKey {kind : AssociationKind} : decl.HasKind kind →
    Text.isIdentifier (env.parentKey owner kind decl) = true →
    Text.isIdentifier (decl.childKey owner kind) = false →
    FirstFault env owner decl (.invalidColumn (decl.childKey owner kind))
  | typeColumn {kind : AssociationKind} {column : String} : decl.HasKind kind →
    Text.isIdentifier (env.parentKey owner kind decl) = true →
    Text.isIdentifier (decl.childKey owner kind) = true → decl.typeColumn? = some column →
    Text.isIdentifier column = false → FirstFault env owner decl (.invalidColumn column)

/-- **A declaration is described when it is accepted.** -/
theorem describe_eq_ok_iff_accepts {a : Association} : env.describe owner decl = .ok a ↔
    ∃ kind, env.Accepts owner decl kind ∧ a = env.describeKind owner kind decl := by
  rw [describe_eq_ok_iff]
  constructor
  · rintro ⟨kind, hkind, rfl, hkeys⟩
    replace hkind := Relationship.checkedKind_eq_ok_iff_hasKind.1 hkind
    rw [keyColumns_describeKind hkind] at hkeys
    exact ⟨kind, ⟨hkind, hkeys _ (by simp), hkeys _ (by simp),
      fun column h => hkeys column (by simp [h])⟩, rfl⟩
  · rintro ⟨kind, h, rfl⟩
    refine ⟨kind, Relationship.checkedKind_eq_ok_iff_hasKind.2 h.hasKind, rfl, ?_⟩
    rw [keyColumns_describeKind h.hasKind]
    intro column hcolumn
    rcases List.mem_cons.1 hcolumn with rfl | hcolumn
    · exact h.parentKey
    · rcases List.mem_cons.1 hcolumn with rfl | hcolumn
      · exact h.childKey
      · exact h.typeColumn column (Option.mem_toList.1 hcolumn)

/-- The first key column that is no identifier, in the order of the checks. -/
theorem find?_keyColumns_eq_some_iff (h : decl.HasKind kind) {column : String} :
    ((env.describeKind owner kind decl).keyColumns.find? fun key => !Text.isIdentifier key) =
        some column ↔
      (Text.isIdentifier (env.parentKey owner kind decl) = false ∧
        column = env.parentKey owner kind decl) ∨
      (Text.isIdentifier (env.parentKey owner kind decl) = true ∧
        ((Text.isIdentifier (decl.childKey owner kind) = false ∧ column = decl.childKey owner kind) ∨
          (Text.isIdentifier (decl.childKey owner kind) = true ∧
            decl.typeColumn? = some column ∧ Text.isIdentifier column = false))) := by
  rw [keyColumns_describeKind h, find?_not_cons, find?_not_cons, find?_not_toList]

/-- **A declaration is refused for what it lacks first.** -/
theorem describe_eq_error_iff {e : AssociationError} : env.describe owner decl = .error e ↔
    ∃ reason, env.FirstFault owner decl reason ∧ e = .misconfigured owner.name decl.name reason := by
  have hreason (reason : Misconfiguration) :
      env.describe? owner decl = .error reason ↔ env.FirstFault owner decl reason := by
    rw [describe?, Fallible.bind_eq_error_iff, Relationship.checkedKind_eq_error_iff]
    simp only [Relationship.checkedKind_eq_ok_iff_hasKind]
    constructor
    · rintro (hkind | ⟨kind, hkind, h⟩)
      · exact .kind hkind
      · split at h
        · rename_i column hcolumn
          cases h
          rcases (find?_keyColumns_eq_some_iff hkind).1 hcolumn with
            ⟨hparent, rfl⟩ | ⟨hparent, ⟨hchild, rfl⟩ | ⟨hchild, htype, hcolumn⟩⟩
          · exact .parentKey hkind hparent
          · exact .childKey hkind hparent hchild
          · exact .typeColumn hkind hparent hchild htype hcolumn
        · cases h
    · intro h
      cases h with
      | kind hkind => exact .inl hkind
      | parentKey hkind hparent =>
        refine .inr ⟨_, hkind, ?_⟩
        rw [(find?_keyColumns_eq_some_iff hkind).2 (.inl ⟨hparent, rfl⟩)]
      | childKey hkind hparent hchild =>
        refine .inr ⟨_, hkind, ?_⟩
        rw [(find?_keyColumns_eq_some_iff hkind).2 (.inr ⟨hparent, .inl ⟨hchild, rfl⟩⟩)]
      | typeColumn hkind hparent hchild htype hcolumn =>
        refine .inr ⟨_, hkind, ?_⟩
        rw [(find?_keyColumns_eq_some_iff hkind).2 (.inr ⟨hparent, .inr ⟨hchild, htype, hcolumn⟩⟩)]
  rw [describe]
  simp only [← hreason]
  cases env.describe? owner decl with
  | ok a => simp [Except.mapError]
  | error reason => simp [Except.mapError, eq_comm]

/-! ### With another registry -/

/-- A parent key that is left open is an identifier if that of the type is, where it is registered. -/
theorem isIdentifier_parentKey_of_open
    (hdefault : Text.isIdentifier env.config.defaultPrimaryKey = true)
    (hregistered : ∀ record, env.registry.find? decl.targetName = some record →
      Text.isIdentifier record.primaryKey = true)
    (hopen : decl.LeavesKeyOpen owner kind) :
    Text.isIdentifier (env.parentKey owner kind decl) = true := by
  rw [parentKey_of_open hopen, Registry.primaryKeyOf]
  cases hfind : env.registry.find? decl.targetName with
  | none => exact hdefault
  | some record => exact hregistered record hfind

/-- A parent key stays an identifier with another registry, if a key that is left open is one there. -/
theorem isIdentifier_parentKey_relink
    (hdefault : Text.isIdentifier env.config.defaultPrimaryKey = true)
    (hregistered : decl.LeavesKeyOpen owner kind → ∀ record,
      registry.find? decl.targetName = some record → Text.isIdentifier record.primaryKey = true)
    (h : Text.isIdentifier (env.parentKey owner kind decl) = true) :
    Text.isIdentifier ({ env with registry := registry }.parentKey owner kind decl) = true := by
  by_cases hopen : decl.LeavesKeyOpen owner kind
  · exact isIdentifier_parentKey_of_open hdefault (hregistered hopen) hopen
  · rw [parentKey_of_not_open hopen]
    exact h

/-- **A declaration that is accepted is accepted with another registry**, if a key that is left open is an
identifier there. -/
theorem Accepts.relink (hdefault : Text.isIdentifier env.config.defaultPrimaryKey = true)
    (hregistered : decl.LeavesKeyOpen owner kind → ∀ record,
      registry.find? decl.targetName = some record → Text.isIdentifier record.primaryKey = true)
    (h : env.Accepts owner decl kind) :
    { env with registry := registry }.Accepts owner decl kind where
  hasKind := h.hasKind
  parentKey := isIdentifier_parentKey_relink hdefault hregistered h.parentKey
  childKey := h.childKey
  typeColumn := h.typeColumn

/-- So it is where fewer types are registered. -/
theorem Accepts.forget (hdefault : Text.isIdentifier env.config.defaultPrimaryKey = true)
    (hfewer : ∀ name record, registry.find? name = some record →
      env.registry.find? name = some record)
    (h : env.Accepts owner decl kind) :
    { env with registry := registry }.Accepts owner decl kind := by
  refine h.relink hdefault ?_
  intro hopen record hfind
  have hkey := h.parentKey
  rw [parentKey_of_open hopen, Registry.primaryKeyOf, hfewer _ _ hfind] at hkey
  exact hkey

end Environment

/-- **A configuration passes** when its labels and its default key are identifiers and its search operator names a
position. -/
theorem Config.validate_eq_ok_iff {config : Config} : config.validate = .ok config ↔
    (∀ label ∈ config.labelFields, Text.isIdentifier label = true) ∧
      MatchPosition.isKnown config.searchOperator = true ∧
      Text.isIdentifier config.defaultPrimaryKey = true := by
  have hfault : config.validate = .ok config ↔ config.fault? = none := by
    rw [validate]
    cases config.fault? <;> simp
  rw [hfault, fault?]
  cases hlabel : config.labelFields.find? fun label => !Text.isIdentifier label with
  | some label =>
    have hbad := List.find?_some hlabel
    refine iff_of_false nofun fun h => ?_
    simp [h.1 label (List.mem_of_find?_eq_some hlabel)] at hbad
  | none =>
    have hlabels : ∀ label ∈ config.labelFields, Text.isIdentifier label = true := by
      simpa using hlabel
    rw [and_iff_right hlabels]
    cases MatchPosition.isKnown config.searchOperator <;>
      cases Text.isIdentifier config.defaultPrimaryKey <;> simp

/-- The default key of a configuration that is not refused is an identifier. -/
theorem Config.isIdentifier_defaultPrimaryKey {config : Config} (h : config.validate = .ok config) :
    Text.isIdentifier config.defaultPrimaryKey = true :=
  (validate_eq_ok_iff.1 h).2.2

/-! ### All declarations of a record type -/

theorem Environment.exists_describe_iff {env : Environment} {owner : RecordType} {decl : Relationship} :
    (∃ a, env.describe owner decl = .ok a) ↔ ∃ kind, env.Accepts owner decl kind := by
  simp only [describe_eq_ok_iff_accepts]
  exact ⟨fun ⟨_, kind, h, _⟩ => ⟨kind, h⟩, fun ⟨kind, h⟩ => ⟨_, kind, h, rfl⟩⟩

theorem Environment.exists_associations_iff {env : Environment} {owner : RecordType} :
    (∃ associations, env.associations owner = .ok associations) ↔
      ∀ decl ∈ env.schema.relationships owner, ∃ kind, env.Accepts owner decl kind := by
  rw [associations, Fallible.exists_mapM_iff]
  simp only [exists_describe_iff]

/-- **All declarations of a record type are described when each of them is accepted; otherwise the first
that is not is refused**, for what it lacks first.  Where the configuration is one that is not refused, a
type that is not registered is no reason: the key that is then taken passes, and whatever is described
stays so when types are forgotten. -/
theorem declarations_are_checked_in_order (env : Environment) (owner : RecordType) :
    ((∃ associations, env.associations owner = .ok associations) ↔
      ∀ decl ∈ env.schema.relationships owner, ∃ kind, env.Accepts owner decl kind) ∧
    (∀ error, env.associations owner = .error error ↔ ∃ before decl after reason,
      env.schema.relationships owner = before ++ decl :: after ∧
        (∀ earlier ∈ before, ∃ kind, env.Accepts owner earlier kind) ∧
        env.FirstFault owner decl reason ∧ error = .misconfigured owner.name decl.name reason) ∧
    (env.config.validate = .ok env.config →
      (∀ decl kind, decl.LeavesKeyOpen owner kind → env.registry.find? decl.targetName = none →
        Text.isIdentifier (env.parentKey owner kind decl) = true) ∧
      ∀ registry : Registry,
        (∀ name record, registry.find? name = some record →
          env.registry.find? name = some record) →
        (∃ associations, env.associations owner = .ok associations) →
        ∃ associations, { env with registry := registry }.associations owner = .ok associations) := by
  refine ⟨Environment.exists_associations_iff, ?_, ?_⟩
  · intro error
    rw [Environment.associations, Fallible.mapM_eq_error_iff]
    simp only [Environment.exists_describe_iff, Environment.describe_eq_error_iff]
    constructor
    · rintro ⟨before, decl, after, hdecls, hbefore, reason, hfault, he⟩
      exact ⟨before, decl, after, reason, hdecls, hbefore, hfault, he⟩
    · rintro ⟨before, decl, after, reason, hdecls, hbefore, hfault, he⟩
      exact ⟨before, decl, after, hdecls, hbefore, reason, hfault, he⟩
  · intro hvalid
    have hdefault := Config.isIdentifier_defaultPrimaryKey hvalid
    constructor
    · intro decl kind hopen hnone
      exact Environment.isIdentifier_parentKey_of_open hdefault (by simp [hnone]) hopen
    · intro registry hfewer hok
      rw [Environment.exists_associations_iff] at hok ⊢
      intro decl hdecl
      obtain ⟨kind, haccepts⟩ := hok decl hdecl
      exact ⟨kind, haccepts.forget hdefault hfewer⟩

namespace League

/-- Coaches belong to a squad, which nobody registers; what they own cannot be polymorphic, whatever its
key is called; and something has neither name nor kind. -/
def coach : TypeDeclaration where
  name := "Coach"
  table := some "coaches"
  primaryKey := none
  columns := [.ofNameType "id" "integer"]
  relationships :=
    [Relationship.ofKind "belongs_to" "squad",
      { Relationship.ofKind " has_many " "shoes" with
        polymorphic := true, foreignKey := some "owner id" },
      { Relationship.ofKind "has_one" " " with kind := none }]

/-- The league with its coaches. -/
def withCoaches : Environment :=
  Catalog.environment ⟨[division, team, coach]⟩ .default

end League

/-- The first bad declaration of a coach is refused for its kind, not for its key, and teams stay what
they are when their divisions are forgotten. -/
theorem declarations_are_checked_in_order_league :
    League.withCoaches.associations League.coach.recordType =
        .error (.misconfigured "Coach" "shoes" (.polymorphicKind .hasMany)) ∧
      Config.default.validate = .ok Config.default ∧
      ∃ associations, { League.withCoaches with registry := .empty }.associations
        League.team.recordType = .ok associations := by
  have hsquad : League.withCoaches.Accepts League.coach.recordType
      (Relationship.ofKind "belongs_to" "squad") .belongsTo :=
    ⟨Relationship.hasKind_ofKind (by decide +kernel) (by decide +kernel), by decide +kernel,
      by decide +kernel, nofun⟩
  have hshoes : League.withCoaches.FirstFault League.coach.recordType
      League.coach.relationships[1] (.polymorphicKind .hasMany) :=
    .kind (.polymorphicKind (by decide +kernel) rfl (by decide +kernel) rfl (by decide))
  have hvalid : Config.default.validate = .ok Config.default := by decide +kernel
  refine ⟨?_, hvalid, ?_⟩
  · refine ((declarations_are_checked_in_order _ _).2.1 _).2
      ⟨[_], League.coach.relationships[1], [_], _, rfl, ?_, hshoes, rfl⟩
    intro earlier hearlier
    rw [List.mem_singleton.1 hearlier]
    exact ⟨_, hsquad⟩
  · refine ((declarations_are_checked_in_order _ _).2.2 hvalid).2 .empty nofun ?_
    exact ⟨[League.withCoaches.describeBelongsTo League.team.recordType League.team.relationships[0]],
      by decide +kernel⟩

end AdminQuery
