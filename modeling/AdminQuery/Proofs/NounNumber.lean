import AdminQuery.Proofs.NamingConventions
import AdminQuery.Proofs.Plurals

/-!
# The number of a noun

A type belongs to `team` and has many `teams`; both declarations mean the type of the singular of their name.
The singular of a name that is singular already is a matter of its ending, and so is the singular of its plural.

* `singularChars_of_isRecoverable`: **the singular of a noun that its plural gives back**, which is the noun itself
  or, behind `us`, the noun without its last letter
* `length_camelCaseFrom_append`: small letters at the end show in camel case
* `targets_of_one_noun`: **the two declarations mean one type, save for a noun that ends in `us`**
* `plurals_are_undone_iff`: **a plural gives its noun and its type back if and only if the noun is recoverable**
-/

namespace AdminQuery

namespace Inflection

/-! ### Nouns that their plural gives back -/

/-- A noun that its plural gives back is its own singular, unless it ends in `us`. -/
theorem singularChars_of_isRecoverable {noun : List Char} (h : IsRecoverable noun) :
    (¬['u', 's'] <:+ noun ∧ singularChars noun = noun) ∨
      ∃ stem, noun = stem ++ ['u', 's'] ∧ singularChars noun = stem ++ ['u'] := by
  by_cases hs : ['s'] <:+ noun
  · rcases h.of_s hs with ⟨stem, rfl⟩ | ⟨stem, rfl⟩
    · exact .inl ⟨not_suffix_append (by decide) stem, singularChars_ss stem⟩
    · exact .inr ⟨stem, rfl, singularChars_us stem⟩
  · left
    exact ⟨fun hus => hs ((List.suffix_append ['u'] ['s']).trans hus), singularChars_of_not_s hs⟩

theorem toList_singular_plural (noun : String) :
    (singular (plural noun)).toList = singularChars (pluralChars noun.toList) := by
  rw [singular, plural, String.toList_ofList, String.toList_ofList]

theorem singular_plural_eq_iff (noun : String) :
    singular (plural noun) = noun ↔ IsRecoverable noun.toList := by
  rw [← String.toList_inj, toList_singular_plural, singularChars_pluralChars_eq_iff]

/-! ### Camel case -/

section SmallLetters

variable {ending : List Char} (h : ending.all Char.isLower = true)

include h

theorem length_camelCaseFrom (fresh : Bool) : (camelCaseFrom fresh ending).length = ending.length := by
  induction ending generalizing fresh with
  | nil => rfl
  | cons c rest ih =>
    obtain ⟨hc, hrest⟩ := Bool.and_eq_true_iff.1 h
    have hmark : c ≠ '_' := (lower_of_isWordRest (isWordRest_of_isLower hc)).2.2
    rw [camelCaseFrom, if_neg hmark, List.length_append, ih hrest, (upper_of_isLower hc).1]
    cases fresh <;> simp [Nat.add_comm]

/-- Camel case shows every small letter at the end of a name. -/
theorem length_camelCaseFrom_append (fresh : Bool) (stem : List Char) :
    (camelCaseFrom fresh (stem ++ ending)).length = (camelCaseFrom fresh stem).length + ending.length := by
  induction stem generalizing fresh with
  | nil => rw [List.nil_append, length_camelCaseFrom h, camelCaseFrom, List.length_nil, Nat.zero_add]
  | cons d rest ih =>
    rw [List.cons_append, camelCaseFrom, camelCaseFrom]
    split
    · exact ih true
    · rw [List.length_append, List.length_append, ih false, Nat.add_assoc]

end SmallLetters

/-- So camel case tells words apart that differ in small letters at their ends. -/
theorem DifferAtEnd.camelCase_ne {word other : String} (h : DifferAtEnd word.toList other.toList) :
    camelCase word ≠ camelCase other := by
  obtain ⟨stem, lost, gained, hword, hother, hlost, hgained, hlength⟩ := h
  intro heq
  have hlengths := congrArg List.length (String.ofList_injective heq)
  rw [hword, hother, length_camelCaseFrom_append hlost, length_camelCaseFrom_append hgained] at hlengths
  exact hlength (Nat.add_left_cancel hlengths)

/-- The singular of a noun that its plural gives back stands for the same type, unless the noun ends in `us`. -/
theorem camelCase_singular_eq_iff {word : String} (h : singular (plural word) = word) :
    camelCase (singular word) = camelCase word ↔ ¬['u', 's'] <:+ word.toList := by
  obtain ⟨hus, hsame⟩ | ⟨stem, hus, hshorter⟩ :=
    singularChars_of_isRecoverable ((singular_plural_eq_iff word).1 h)
  · refine iff_of_true ?_ hus
    rw [singular, hsame, String.ofList_toList]
  · have hsingular : (singular word).toList = stem ++ ['u'] ++ [] := by
      rw [singular, hshorter, String.toList_ofList, List.append_nil]
    have hword : word.toList = stem ++ ['u'] ++ ['s'] := by
      rw [hus, List.append_assoc]
      rfl
    have hdiffer : DifferAtEnd (singular word).toList word.toList :=
      ⟨stem ++ ['u'], [], ['s'], hsingular, hword, rfl, rfl, by decide⟩
    exact iff_of_false hdiffer.camelCase_ne fun hnot => hnot ⟨stem, hus.symm⟩

/-- What comes back from a plural stands for the type of the noun exactly if the noun is recoverable. -/
theorem camelCase_singular_plural_eq_iff (noun : String) :
    camelCase (singular (plural noun)) = camelCase noun ↔ IsRecoverable noun.toList := by
  constructor
  · intro hback
    by_contra hnot
    have hdiffer : DifferAtEnd noun.toList (singular (plural noun)).toList := by
      rw [toList_singular_plural]
      exact differ_of_not_isRecoverable hnot
    exact hdiffer.camelCase_ne hback.symm
  · intro h
    rw [(singular_plural_eq_iff noun).2 h]

end Inflection

/-! ### Two declarations for one noun -/

/-- A declaration without a class names the type that the singular of its name stands for. -/
theorem Environment.target?_eq_ofUnderscored {env : Environment} {owner : RecordType} {decl : Relationship}
    {a : Association} (h : env.Declares owner decl a) (hclass : decl.className = none)
    (hp : decl.polymorphic = false) :
    a.target?.map TypeReference.typeName =
      some (RecordType.ofUnderscored (Inflection.singular decl.name)).name := by
  rw [typeName_target?_of_describe h.describe hp, Relationship.targetName_eq_ofUnderscored hclass rfl]

/-- **The two declarations mean one type, save for a noun that ends in `us`.**  Under its plural a noun that the
plural gives back always means the type it stands for.  So it does under the noun itself, if that does not end in
`us`; one that does is taken for a plural, and means the type of the noun without its last letter, another type. -/
theorem targets_of_one_noun {word : String}
    (hnoun : Inflection.singular (Inflection.plural word) = word) :
    (Inflection.camelCase (Inflection.singular word) =
        Inflection.camelCase (Inflection.singular (Inflection.plural word)) ↔
      ¬['u', 's'] <:+ word.toList) ∧
    ∀ (env : Environment) (owner owner' : RecordType) (one many : Relationship) (a b : Association),
      env.Declares owner one a → one.HasKind .belongsTo → one.name = word → one.className = none →
      one.polymorphic = false → env.Declares owner' many b → many.HasKind .hasMany →
      many.name = Inflection.plural word → many.className = none →
        b.target?.map TypeReference.typeName = some (RecordType.ofUnderscored word).name ∧
        (a.target?.map TypeReference.typeName = b.target?.map TypeReference.typeName ↔
          ¬['u', 's'] <:+ word.toList) ∧
        ∀ stem, word.toList = stem ++ ['u', 's'] → a.target?.map TypeReference.typeName =
          some (RecordType.ofUnderscored (String.ofList (stem ++ ['u']))).name := by
  have hsame : Inflection.camelCase (Inflection.singular word) =
      Inflection.camelCase (Inflection.singular (Inflection.plural word)) ↔ ¬['u', 's'] <:+ word.toList := by
    rw [hnoun]
    exact Inflection.camelCase_singular_eq_iff hnoun
  refine ⟨hsame, ?_⟩
  rintro env owner owner' one many a b hone hkind rfl hclass hp hmany hkind' hname' hclass'
  have ha := Environment.target?_eq_ofUnderscored hone hclass hp
  have hb := Environment.target?_eq_ofUnderscored hmany hclass' (hkind'.not_polymorphic (by decide))
  rw [hname'] at hb
  refine ⟨by rw [hb, hnoun], ?_, ?_⟩
  · rw [ha, hb, Option.some_inj]
    exact hsame
  · intro stem hstem
    rw [ha, Inflection.singular, hstem, Inflection.singularChars_us]

namespace Helpdesk

/-- A ticket belongs to an address and has many of them, and likewise for its status. -/
def ticket : TypeDeclaration where
  name := "Ticket"
  table := none
  primaryKey := none
  columns := [.ofNameType "id" "integer"]
  relationships :=
    [Relationship.ofKind "belongs_to" "address", Relationship.ofKind "has_many" "addresses",
      Relationship.ofKind "belongs_to" "status", Relationship.ofKind "has_many" "statuses"]

/-- Tickets, with the statuses they can have. -/
def environment : Environment :=
  Catalog.environment ⟨[ticket, { ticket with name := "Status", relationships := [] }]⟩ .default

/-- What a ticket belongs to, by a name. -/
def parent (name : String) : Association :=
  environment.describeKind ticket.recordType .belongsTo (.ofKind "belongs_to" name)

/-- What a ticket has many of, by a name. -/
def children (name : String) : Association :=
  environment.describeKind ticket.recordType .hasMany (.ofKind "has_many" name)

theorem associations_ticket : environment.associations ticket.recordType =
    .ok [parent "address", children "addresses", parent "status", children "statuses"] := by
  decide +kernel

end Helpdesk

open Helpdesk in
/-- An address is not taken for a plural, in spite of its last letter: tickets belong to the type they have many
of. -/
theorem targets_of_one_noun_address :
    Inflection.singular (Inflection.plural "address") = "address" ∧
      (parent "address").target?.map TypeReference.typeName = some "Address" ∧
      (children "addresses").target?.map TypeReference.typeName = some "Address" := by
  have hnoun : Inflection.singular (Inflection.plural "address") = "address" := by decide +kernel
  have htype : (RecordType.ofUnderscored "address").name = "Address" := by decide +kernel
  obtain ⟨-, htargets⟩ := targets_of_one_noun hnoun
  obtain ⟨hmany, hagree, -⟩ := htargets environment ticket.recordType ticket.recordType
    ticket.relationships[0] ticket.relationships[1] (parent "address") (children "addresses")
    ⟨_, 0, associations_ticket, rfl, rfl⟩
    (Relationship.hasKind_ofKind (by decide +kernel) (by decide +kernel)) rfl rfl rfl
    ⟨_, 1, associations_ticket, rfl, rfl⟩
    (Relationship.hasKind_ofKind (by decide +kernel) (by decide +kernel)) (by decide +kernel) rfl
  rw [htype] at hmany
  exact ⟨hnoun, (hagree.2 (by decide)).trans hmany, hmany⟩

open Helpdesk in
/-- The plural of `status` gives `status` back, but a ticket that belongs to its status belongs to a type of
another name, which is not registered. -/
theorem targets_of_status_differ :
    Inflection.singular (Inflection.plural "status") = "status" ∧
      Inflection.camelCase (Inflection.singular "status") = "Statu" ∧
      Inflection.camelCase (Inflection.singular (Inflection.plural "status")) = "Status" ∧
      environment.Declares ticket.recordType (Relationship.ofKind "belongs_to" "status") (parent "status") ∧
      environment.Declares ticket.recordType (Relationship.ofKind "has_many" "statuses") (children "statuses") ∧
      (parent "status").target?.map TypeReference.typeName = some "Statu" ∧
      (children "statuses").target?.map TypeReference.typeName = some "Status" ∧
      environment.registry.find? "Statu" = none :=
  ⟨by decide +kernel, by decide +kernel, by decide +kernel, ⟨_, 2, associations_ticket, rfl, rfl⟩,
    ⟨_, 3, associations_ticket, rfl, rfl⟩, by decide +kernel, by decide +kernel, by decide +kernel⟩

/-- **Plurals are undone by the ending of the noun alone.**  A noun comes back from its plural if and only if it is
recoverable; and an association under that plural, which names no class, means the type that the noun stands for if
and only if it is.  Any other noun needs its class named. -/
theorem plurals_are_undone_iff (noun : String) :
    (Inflection.singular (Inflection.plural noun) = noun ↔ Inflection.IsRecoverable noun.toList) ∧
    ∀ (env : Environment) (owner : RecordType) (decl : Relationship) (a : Association),
      env.Declares owner decl a → decl.name = Inflection.plural noun → decl.className = none →
      decl.polymorphic = false →
        (a.target?.map TypeReference.typeName = some (RecordType.ofUnderscored noun).name ↔
          Inflection.IsRecoverable noun.toList) := by
  refine ⟨Inflection.singular_plural_eq_iff noun, ?_⟩
  intro env owner decl a hdeclares hname hclass hp
  rw [Environment.target?_eq_ofUnderscored hdeclares hclass hp, hname, Option.some_inj]
  exact Inflection.camelCase_singular_plural_eq_iff noun

namespace Street

/-- A street has many buses and many houses. -/
def street : TypeDeclaration where
  name := "Street"
  table := none
  primaryKey := none
  columns := [.ofNameType "id" "integer"]
  relationships := [Relationship.ofKind "has_many" "buses", Relationship.ofKind "has_many" "houses"]

def environment : Environment :=
  Catalog.environment ⟨[street]⟩ .default

/-- What a street has many of, by a name. -/
def children (name : String) : Association :=
  environment.describeKind street.recordType .hasMany (.ofKind "has_many" name)

theorem associations_street : environment.associations street.recordType =
    .ok [children "buses", children "houses"] := by
  decide +kernel

end Street

open Street in
/-- A street means buses by `buses`, but does not mean houses by `houses`. -/
theorem plurals_are_undone_iff_street :
    Inflection.singular (Inflection.plural "bus") = "bus" ∧
      (children "buses").target?.map TypeReference.typeName = some "Bus" ∧
      Inflection.singular (Inflection.plural "house") ≠ "house" ∧
      (children "houses").target?.map TypeReference.typeName ≠ some "House" := by
  have hbus : Inflection.IsRecoverable "bus".toList := by decide +kernel
  have hhouse : ¬Inflection.IsRecoverable "house".toList := by decide +kernel
  have hbusType : (RecordType.ofUnderscored "bus").name = "Bus" := by decide +kernel
  have hhouseType : (RecordType.ofUnderscored "house").name = "House" := by decide +kernel
  obtain ⟨hback, hmeant⟩ := plurals_are_undone_iff "bus"
  obtain ⟨hlost, hother⟩ := plurals_are_undone_iff "house"
  have hbuses := (hmeant environment street.recordType street.relationships[0] (children "buses")
    ⟨_, 0, associations_street, rfl, rfl⟩ (by decide +kernel) rfl rfl).2 hbus
  have hhouses := mt (hother environment street.recordType street.relationships[1] (children "houses")
    ⟨_, 1, associations_street, rfl, rfl⟩ (by decide +kernel) rfl rfl).1 hhouse
  rw [hbusType] at hbuses
  rw [hhouseType] at hhouses
  exact ⟨hback.2 hbus, hbuses, mt hlost.1 hhouse, hhouses⟩

end AdminQuery
