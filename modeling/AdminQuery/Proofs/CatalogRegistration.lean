import AdminQuery.Proofs.CatalogRuns

/-!
# Registering types one by one

A catalog that is kept goes on after a refusal, with the types it held before.  A catalog that is read from
a text stops at the first refusal.

* `Catalog.registration`: a registration as a step on a catalog in place
* `Catalog.attempt`, `Catalog.attemptAll`: the outcome of one registration, and of many
* `FirstInvalid`: the name that a declaration is refused for
* `Registers`: what registrations do, told by what is wrong with the declaration
* `attempt_eq_iff`: **a registration does exactly that**; a refused one leaves the catalog as it was
* `Reachable.attempt`, `Reachable.attemptAll`: **whatever is tried leads to a reachable catalog**, which is
  well formed
* `registerAll_eq_ok_iff`, `registerAll_eq_error_iff`: declarations are accepted together when each of them
  is, and fail as the first of them that is refused
* `catalogs_hold_registered_types`: all of it, with the registry of a catalog and with catalogs read from
  texts
-/

namespace AdminQuery

/-! ### What a declaration is refused for -/

namespace TypeDeclaration

/-- All names that may stand in a condition are identifiers. -/
def IsValid (decl : TypeDeclaration) : Prop :=
  ∀ name ∈ decl.identifiers, Text.isIdentifier name = true

/-- `name` is no identifier, and the first such name of the declaration: the name of the type comes before
its table, its primary key and its columns. -/
def FirstInvalid (decl : TypeDeclaration) (name : String) : Prop :=
  ∃ before after, decl.identifiers = before ++ name :: after ∧
    (∀ earlier ∈ before, Text.isIdentifier earlier = true) ∧ Text.isIdentifier name = false

theorem invalidIdentifier?_eq_none_iff {decl : TypeDeclaration} :
    decl.invalidIdentifier? = none ↔ decl.IsValid := by
  rw [invalidIdentifier?, List.find?_eq_none, IsValid]
  simp

theorem invalidIdentifier?_eq_some_iff {decl : TypeDeclaration} {name : String} :
    decl.invalidIdentifier? = some name ↔ decl.FirstInvalid name := by
  rw [invalidIdentifier?, List.find?_eq_some_iff_append, FirstInvalid]
  simp only [Bool.not_eq_true', Bool.not_eq_false']
  constructor
  · rintro ⟨hname, before, after, hsplit, hbefore⟩
    exact ⟨before, after, hsplit, by simpa using hbefore, hname⟩
  · rintro ⟨before, after, hsplit, hbefore, hname⟩
    exact ⟨hname, before, after, hsplit, by simpa using hbefore⟩

/-- A declaration with a name that it is refused for is not valid. -/
theorem FirstInvalid.not_isValid {decl : TypeDeclaration} {name : String}
    (h : decl.FirstInvalid name) : ¬decl.IsValid := by
  intro hvalid
  rw [← invalidIdentifier?_eq_none_iff, invalidIdentifier?_eq_some_iff.2 h] at hvalid
  cases hvalid

end TypeDeclaration

namespace Catalog

/-- A catalog is its declarations. -/
theorem eq_of_types {catalog other : Catalog} (h : catalog.types = other.types) : catalog = other := by
  cases catalog
  cases other
  exact congrArg Catalog.mk h

/-! ### One registration in place -/

/-- A registration as a step on a catalog in place: what is written stays written when the step fails. -/
def registration (decl : TypeDeclaration) : ExceptT CatalogError (StateM Catalog) Unit := do
  decl.validate
  if ((← get).get? decl.name).isSome then throw (.duplicateType decl.name)
  modify fun catalog => ⟨catalog.types ++ [decl]⟩

/-- The outcome of a registration, and the catalog that it leaves behind. -/
def attempt (catalog : Catalog) (decl : TypeDeclaration) : Except CatalogError Unit × Catalog :=
  (registration decl).run.run catalog

/-- A registration in place and one that gives a new catalog are the same. -/
theorem attempt_eq (catalog : Catalog) (decl : TypeDeclaration) :
    catalog.attempt decl = match catalog.register decl with
      | .ok next => (.ok (), next)
      | .error e => (.error e, catalog) := by
  rw [attempt, registration, register]
  cases decl.validate with
  | error e => rfl
  | ok _ =>
    show (do
      if (catalog.get? decl.name).isSome then throw (.duplicateType decl.name)
      modify fun catalog => ⟨catalog.types ++ [decl]⟩ :
        ExceptT CatalogError (StateM Catalog) Unit).run.run catalog = _
    cases (catalog.get? decl.name).isSome with
    | true => rfl
    | false => rfl

/-- The type of a declaration is declared already. -/
def Holds (catalog : Catalog) (typeName : String) : Prop :=
  typeName ∈ catalog.types.map TypeDeclaration.name

theorem isSome_get?_iff {catalog : Catalog} {typeName : String} :
    (catalog.get? typeName).isSome = true ↔ catalog.Holds typeName := by
  simp [get?, Holds, List.find?_isSome]

/-- What a registration does: the outcome, and the catalog that it leaves behind. -/
inductive Registers (catalog : Catalog) (decl : TypeDeclaration) :
    Except CatalogError Unit → Catalog → Prop where
  /-- A valid declaration of a new type stands behind the others. -/
  | added : decl.IsValid → ¬catalog.Holds decl.name →
    Registers catalog decl (.ok ()) ⟨catalog.types ++ [decl]⟩
  /-- A name that is no identifier is told first, also where the type is declared already. -/
  | invalid {name : String} : decl.FirstInvalid name →
    Registers catalog decl (.error (.invalidIdentifier decl.name name)) catalog
  | duplicate : decl.IsValid → catalog.Holds decl.name →
    Registers catalog decl (.error (.duplicateType decl.name)) catalog

theorem attempt_of_firstInvalid {catalog : Catalog} {decl : TypeDeclaration} {name : String}
    (h : decl.FirstInvalid name) :
    catalog.attempt decl = (.error (.invalidIdentifier decl.name name), catalog) := by
  rw [attempt_eq, register, TypeDeclaration.validate,
    TypeDeclaration.invalidIdentifier?_eq_some_iff.2 h]
  rfl

/-- A valid declaration is accepted when its type is new. -/
theorem attempt_of_isValid {catalog : Catalog} {decl : TypeDeclaration} (h : decl.IsValid) :
    catalog.attempt decl = if (catalog.get? decl.name).isSome
      then (.error (.duplicateType decl.name), catalog) else (.ok (), ⟨catalog.types ++ [decl]⟩) := by
  rw [attempt_eq, register, TypeDeclaration.validate,
    TypeDeclaration.invalidIdentifier?_eq_none_iff.2 h]
  cases (catalog.get? decl.name).isSome with
  | true => rfl
  | false => rfl

/-- **A registration does exactly what the rules say.** -/
theorem attempt_eq_iff {catalog next : Catalog} {decl : TypeDeclaration}
    {outcome : Except CatalogError Unit} :
    catalog.attempt decl = (outcome, next) ↔ Registers catalog decl outcome next := by
  constructor
  · intro h
    cases hinvalid : decl.invalidIdentifier? with
    | some name =>
      have hname := TypeDeclaration.invalidIdentifier?_eq_some_iff.1 hinvalid
      rw [attempt_of_firstInvalid hname] at h
      cases h
      exact .invalid hname
    | none =>
      have hvalid := TypeDeclaration.invalidIdentifier?_eq_none_iff.1 hinvalid
      rw [attempt_of_isValid hvalid] at h
      split at h
      · rename_i hheld
        cases h
        exact .duplicate hvalid (isSome_get?_iff.1 hheld)
      · rename_i hnew
        cases h
        exact .added hvalid (mt isSome_get?_iff.2 hnew)
  · intro h
    cases h with
    | added hvalid hnew => rw [attempt_of_isValid hvalid, if_neg (mt isSome_get?_iff.1 hnew)]
    | invalid hinvalid => exact attempt_of_firstInvalid hinvalid
    | duplicate hvalid hheld => rw [attempt_of_isValid hvalid, if_pos (isSome_get?_iff.2 hheld)]

/-- **A registration that is refused leaves the catalog as it was**, and its code tells a name that is no
identifier from a type that is declared already. -/
theorem Registers.of_error {catalog next : Catalog} {decl : TypeDeclaration} {e : CatalogError}
    (h : Registers catalog decl (.error e) next) : next = catalog ∧
      (e.code = "ADMIN_INVALID_IDENTIFIER" ↔ ¬decl.IsValid) ∧
      (e.code = "ADMIN_DUPLICATE_TYPE" ↔ decl.IsValid ∧ catalog.Holds decl.name) := by
  cases h with
  | invalid hinvalid => simp [CatalogError.code, hinvalid.not_isValid]
  | duplicate hvalid hheld => simp [CatalogError.code, hvalid, hheld]

/-! ### Many registrations -/

/-- The outcomes of registrations one after the other, whether or not they are refused, and the catalog
that they leave behind. -/
def attemptAll (catalog : Catalog) :
    List TypeDeclaration → List (Except CatalogError Unit) × Catalog
  | [] => ([], catalog)
  | decl :: rest =>
    let step := catalog.attempt decl
    let last := step.2.attemptAll rest
    (step.1 :: last.1, last.2)

/-- One registration more, refused or not, leads to a reachable catalog. -/
theorem Reachable.attempt {catalog : Catalog} (h : catalog.Reachable) (decl : TypeDeclaration) :
    (catalog.attempt decl).2.Reachable := by
  rw [attempt_eq]
  cases hregister : catalog.register decl with
  | ok next => exact h.register hregister
  | error e => exact h

/-- **Whatever is tried leads to a reachable catalog.** -/
theorem Reachable.attemptAll {catalog : Catalog} (h : catalog.Reachable)
    (decls : List TypeDeclaration) : (catalog.attemptAll decls).2.Reachable := by
  induction decls generalizing catalog with
  | nil => exact h
  | cons decl rest ih => exact ih (h.attempt decl)

/-! ### Registrations up to the first refusal -/

/-- Declarations that are all accepted stand behind those before them, in order. -/
theorem types_of_registerAll {decls : List TypeDeclaration} {catalog next : Catalog}
    (h : catalog.registerAll decls = .ok next) : next.types = catalog.types ++ decls := by
  induction decls generalizing catalog with
  | nil =>
    cases h
    rw [List.append_nil]
  | cons decl rest ih =>
    obtain ⟨step, hstep, hrest⟩ := Fallible.bind_eq_ok_iff.1 h
    obtain ⟨-, -, rfl⟩ := register_eq_ok_iff.1 hstep
    rw [ih hrest, List.append_assoc]
    rfl

/-- **Declarations are accepted together when each of them is**, tried one after the other. -/
theorem registerAll_eq_ok_iff {decls : List TypeDeclaration} {catalog next : Catalog} :
    catalog.registerAll decls = .ok next ↔
      (∀ outcome ∈ (catalog.attemptAll decls).1, outcome = .ok ()) ∧
        next = (catalog.attemptAll decls).2 := by
  induction decls generalizing catalog with
  | nil => simp [registerAll, attemptAll, eq_comm]
  | cons decl rest ih =>
    rw [registerAll, attemptAll, attempt_eq, List.forall_mem_cons]
    cases catalog.register decl with
    | ok step =>
      show step.registerAll rest = .ok next ↔ _
      rw [ih]
      simp
    | error e =>
      show Except.error e = .ok next ↔ _
      simp

/-- `decl` is the first of the declarations that is refused, and `e` the reason. -/
def FirstRefused (catalog : Catalog) (decls : List TypeDeclaration) (decl : TypeDeclaration)
    (e : CatalogError) : Prop :=
  ∃ before after, decls = before ++ decl :: after ∧
    (∀ outcome ∈ (catalog.attemptAll before).1, outcome = .ok ()) ∧
    ((catalog.attemptAll before).2.attempt decl).1 = .error e

/-- The first declaration is refused, or it is accepted and another one is refused first. -/
theorem exists_firstRefused_cons_iff {catalog : Catalog} {decl : TypeDeclaration}
    {rest : List TypeDeclaration} {e : CatalogError} :
    (∃ refused, catalog.FirstRefused (decl :: rest) refused e) ↔
      (catalog.attempt decl).1 = .error e ∨ (catalog.attempt decl).1 = .ok () ∧
        ∃ refused, (catalog.attempt decl).2.FirstRefused rest refused e := by
  constructor
  · rintro ⟨refused, before, after, hsplit, hbefore, hrefused⟩
    cases before with
    | nil =>
      obtain ⟨rfl, -⟩ := List.cons.inj hsplit
      exact .inl hrefused
    | cons first before =>
      obtain ⟨rfl, hrest⟩ := List.cons.inj hsplit
      rw [attemptAll, List.forall_mem_cons] at hbefore
      exact .inr ⟨hbefore.1, refused, before, after, hrest, hbefore.2, hrefused⟩
  · rintro (hrefused | ⟨hok, refused, before, after, rfl, hbefore, hrefused⟩)
    · exact ⟨decl, [], rest, rfl, by simp [attemptAll], hrefused⟩
    · refine ⟨refused, decl :: before, after, rfl, ?_, hrefused⟩
      rw [attemptAll, List.forall_mem_cons]
      exact ⟨hok, hbefore⟩

/-- **Declarations that are not accepted together fail as the first of them that is refused.** -/
theorem registerAll_eq_error_iff {decls : List TypeDeclaration} {catalog : Catalog}
    {e : CatalogError} :
    catalog.registerAll decls = .error e ↔ ∃ refused, catalog.FirstRefused decls refused e := by
  induction decls generalizing catalog with
  | nil => simp [registerAll, FirstRefused]
  | cons decl rest ih =>
    rw [registerAll, exists_firstRefused_cons_iff, attempt_eq]
    cases catalog.register decl with
    | ok step =>
      show step.registerAll rest = .error e ↔ _
      rw [ih]
      simp
    | error d =>
      show Except.error d = .error e ↔ _
      simp

/-! ### Catalogs and their registries -/

/-- **A well-formed catalog and its registry find the same types.** -/
theorem WellFormed.find?_registry {catalog : Catalog} (h : catalog.WellFormed) (name : String) :
    catalog.registry.find? name = catalog.recordType? name := by
  rw [Registry.find?, h.registry_types, Keyed.get?, recordTypes, List.find?_map, recordType?, get?]
  rfl

/-! ### Catalogs of texts -/

/-- The declarations of a JSON text. -/
def declarationsOfText? (text : String) : Option (List TypeDeclaration) :=
  (Json.Document.ofText? text).bind declarationsOfDocument?

/-- A text that holds declarations gives the catalog in which they are registered. -/
theorem ofText_eq_registerAll {text : String} {decls : List TypeDeclaration}
    (h : declarationsOfText? text = some decls) : ofText text = empty.registerAll decls := by
  obtain ⟨document, hdocument, hdecls⟩ := Option.bind_eq_some_iff.1 h
  rw [ofText, ofTextFrom, hdocument]
  show ofDocument inMemory document = _
  rw [ofDocument, hdecls]

end Catalog

/-- **A catalog holds the types whose declarations are valid and new, each once, in the order of their
registration, and its registry holds the same.**  A refused registration reports the first name that is no
identifier, or else the type that is held already, and leaves the catalog as it was.  A text of declarations
gives the catalog that registrations one by one lead to, or the error of the first that is refused. -/
theorem catalogs_hold_registered_types :
    (∀ history catalog, (Catalog.empty.attemptAll history).2 = catalog →
      (catalog.types.map TypeDeclaration.name).Nodup ∧
      (∀ decl ∈ catalog.types, decl.IsValid) ∧
      (∀ decl outcome next, catalog.attempt decl = (outcome, next) ↔
        Catalog.Registers catalog decl outcome next) ∧
      (∀ decl e, (catalog.attempt decl).1 = .error e → (catalog.attempt decl).2 = catalog ∧
        (e.code = "ADMIN_INVALID_IDENTIFIER" ↔ ¬decl.IsValid) ∧
        (e.code = "ADMIN_DUPLICATE_TYPE" ↔ decl.IsValid ∧ catalog.Holds decl.name)) ∧
      catalog.registry.types = catalog.recordTypes ∧
      ∀ name, catalog.registry.find? name = catalog.recordType? name) ∧
    ∀ text decls, Catalog.declarationsOfText? text = some decls →
      (∀ catalog, Catalog.ofText text = .ok catalog ↔
        (∀ outcome ∈ (Catalog.empty.attemptAll decls).1, outcome = .ok ()) ∧ catalog.types = decls) ∧
      ∀ e, Catalog.ofText text = .error e ↔
        ∃ refused, Catalog.empty.FirstRefused decls refused e := by
  constructor
  · rintro history catalog rfl
    have hwell := (Catalog.Reachable.empty.attemptAll history).wellFormed
    generalize (Catalog.empty.attemptAll history).2 = catalog at hwell ⊢
    refine ⟨hwell.names_nodup, hwell.identifiers, fun _ _ _ => Catalog.attempt_eq_iff, ?_,
      hwell.registry_types, hwell.find?_registry⟩
    intro decl e he
    exact (Catalog.attempt_eq_iff.1 (Prod.ext he rfl)).of_error
  · intro text decls hdecls
    rw [Catalog.ofText_eq_registerAll hdecls]
    refine ⟨fun catalog => ?_, fun e => Catalog.registerAll_eq_error_iff⟩
    rw [Catalog.registerAll_eq_ok_iff]
    apply and_congr_right
    intro hok
    have htypes : (Catalog.empty.attemptAll decls).2.types = decls :=
      Catalog.types_of_registerAll (Catalog.registerAll_eq_ok_iff.2 ⟨hok, rfl⟩)
    constructor
    · rintro rfl
      exact htypes
    · intro h
      exact Catalog.eq_of_types (h.trans htypes.symm)

namespace League

/-- Teams again, in a table that is no identifier. -/
def quotedTeam : TypeDeclaration :=
  { team with table := some "team's" }

/-- Two declarations are refused on the way. -/
def history : List TypeDeclaration :=
  [division, quotedTeam, team, division]

/-- A type that is declared twice, the second time in a table that is no identifier. -/
def text : String :=
  "\x7b\"types\": [\x7b\"name\": \"Team\", \"table\": \"teams\"\x7d, " ++
    "\x7b\"name\": \"Team\", \"table\": \"team's\"\x7d]\x7d"

/-- The declarations of the text. -/
def textDeclarations : List TypeDeclaration :=
  [⟨"Team", some "teams", none, [], []⟩, ⟨"Team", some "team's", none, [], []⟩]

end League

/-- Teams in a table that is no identifier are refused for their table, also where teams are declared
already, in a catalog and in a text. -/
theorem catalogs_hold_registered_types_league :
    (Catalog.empty.attemptAll League.history).2 = League.catalog ∧
    League.catalog.attempt League.quotedTeam =
      (.error (.invalidIdentifier "Team" "team's"), League.catalog) ∧
    League.catalog.registry.types = League.catalog.recordTypes ∧
    Catalog.declarationsOfText? League.text = some League.textDeclarations ∧
    Catalog.ofText League.text = .error (.invalidIdentifier "Team" "team's") := by
  have hcatalog : (Catalog.empty.attemptAll League.history).2 = League.catalog := by decide +kernel
  have htext : Catalog.declarationsOfText? League.text = some League.textDeclarations := by
    decide +kernel
  have hinvalid : League.quotedTeam.FirstInvalid "team's" :=
    ⟨["Team"], ["id", "id", "name", "founded"], rfl, by decide, by decide⟩
  have hrefused : Catalog.empty.FirstRefused League.textDeclarations
      ⟨"Team", some "team's", none, [], []⟩ (.invalidIdentifier "Team" "team's") :=
    ⟨[⟨"Team", some "teams", none, [], []⟩], [], rfl, by decide +kernel, by decide +kernel⟩
  obtain ⟨-, -, hattempt, -, hregistry, -⟩ := catalogs_hold_registered_types.1 _ _ hcatalog
  obtain ⟨-, herror⟩ := catalogs_hold_registered_types.2 _ _ htext
  exact ⟨hcatalog, (hattempt _ _ _).2 (.invalid hinvalid), hregistry, htext,
    (herror _).2 ⟨_, hrefused⟩⟩

end AdminQuery
