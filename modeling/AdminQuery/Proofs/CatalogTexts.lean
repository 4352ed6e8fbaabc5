import AdminQuery.Proofs.CatalogRegistration
import AdminQuery.Proofs.PrintedDocuments

/-!
# Catalogs that are written and read back

A declaration is written as an object that leaves out some absent fields, and read back from the documents
of its fields.  Both are stated over one row of fields with optional values: what is written are the given
values, and what is read are the documents of the whole row, gaps included.

* `givenMembers`: the members that write a row of fields
* `fields?_givenMembers`: **the fields of a written row are read back, gaps included**
* `Column.ofDocument?_toJson`, `Relationship.ofDocument?_toJson`, `TypeDeclaration.ofDocument?_toJson`:
  a record is read back from its JSON form
* `Catalog.document`: the JSON form of declarations
* `written_catalogs_are_read_back`: **declarations that a catalog accepts are read back from their text**
-/

namespace AdminQuery

/-! ### Rows of fields -/

namespace Json

/-- The members that write a row of fields: a field without a value is left out. -/
def givenMembers (row : List (String × Option Value)) : List (String × Value) :=
  row.filterMap fun field => field.2.map (field.1, ·)

@[simp] theorem givenMembers_nil : givenMembers [] = [] :=
  rfl

@[simp] theorem givenMembers_cons (name : String) (value : Option Value)
    (row : List (String × Option Value)) :
    givenMembers ((name, value) :: row) = (value.map (name, ·)).toList ++ givenMembers row := by
  cases value <;> rfl

/-- A row of exact values is written exactly. -/
theorem exact_givenMembers {row : List (String × Option Value)}
    (h : ∀ field ∈ row, ∀ value ∈ field.2, value.Exact) : (Value.object (givenMembers row)).Exact := by
  apply Value.Exact.object
  intro member hmember
  obtain ⟨field, hfield, hgiven⟩ := List.mem_filterMap.1 hmember
  obtain ⟨value, hvalue, rfl⟩ := Option.map_eq_some_iff.1 hgiven
  exact h field hfield value hvalue

/-- The documents of the members that write a row of fields, under one name. -/
def namedIn (row : List (String × Option Value)) (name : String) : List Document :=
  Document.membersNamed name ((givenMembers row).map Value.memberDocument)

theorem namedIn_cons_self (name : String) (value : Option Value) (row : List (String × Option Value)) :
    namedIn ((name, value) :: row) name = (value.map Value.toDocument).toList ++ namedIn row name := by
  cases value <;> simp [namedIn, Document.membersNamed, Value.memberDocument]

theorem namedIn_cons_of_ne {field : String × Option Value} {name : String} (h : field.1 ≠ name)
    (row : List (String × Option Value)) : namedIn (field :: row) name = namedIn row name := by
  obtain ⟨other, value⟩ := field
  cases value <;> simp_all [namedIn, Document.membersNamed, Value.memberDocument]

/-- A name that no field has is no member's. -/
theorem namedIn_of_not_mem {row : List (String × Option Value)} {name : String}
    (h : name ∉ row.map Prod.fst) : namedIn row name = [] := by
  induction row with
  | nil => rfl
  | cons field row ih =>
    rw [List.map_cons, List.mem_cons, not_or] at h
    rw [namedIn_cons_of_ne (Ne.symm h.1), ih h.2]

/-- **The member with the name of a field is the value of that field, if it has one.** -/
theorem namedIn_of_mem {row : List (String × Option Value)} (hrow : (row.map Prod.fst).Nodup)
    {field : String × Option Value} (h : field ∈ row) :
    namedIn row field.1 = (field.2.map Value.toDocument).toList := by
  induction row with
  | nil => cases h
  | cons first row ih =>
    rw [List.map_cons, List.nodup_cons] at hrow
    rcases List.mem_cons.1 h with rfl | h
    · show namedIn ((field.1, field.2) :: row) field.1 = _
      rw [namedIn_cons_self, namedIn_of_not_mem hrow.1, List.append_nil]
    · have hne : first.1 ≠ field.1 := by
        intro heq
        apply hrow.1
        rw [heq]
        exact List.mem_map_of_mem h
      rw [namedIn_cons_of_ne hne, ih hrow.2 h]

/-- **The documents of the fields of a written row are the documents of its values.** -/
theorem fields?_givenMembers (row : List (String × Option Value)) (hrow : (row.map Prod.fst).Nodup) :
    (Value.object (givenMembers row)).toDocument.fields? (row.map Prod.fst) =
      some (row.map fun field => field.2.map Value.toDocument) := by
  rw [Value.toDocument, Value.memberDocuments_eq_map, Document.fields?, if_pos]
  · rw [List.map_map]
    congr 1
    apply List.map_congr_left
    intro field hfield
    show (namedIn row field.1).head? = _
    rw [namedIn_of_mem hrow hfield, Option.head?_toList]
  · rw [Bool.and_eq_true, List.all_eq_true, List.all_eq_true]
    constructor
    · intro document hdocument
      obtain ⟨member, -, rfl⟩ := List.mem_map.1 hdocument
      rfl
    · intro name hname
      obtain ⟨field, hfield, rfl⟩ := List.mem_map.1 hname
      show decide ((namedIn row field.1).length ≤ 1) = true
      rw [namedIn_of_mem hrow hfield, decide_eq_true_eq]
      cases field.2 <;> simp

/-! ### Readers of fields -/

theorem read_textOrNull (s : Option String) :
    optional? none (Document.nullable? Document.string?) (some (Value.textOrNull s).toDocument) =
      some s := by
  cases s <;> rfl

theorem read_text (s : Option String) :
    optional? none (Document.nullable? Document.string?)
      ((s.map Value.text).map Value.toDocument) = some s := by
  cases s <;> rfl

/-- A list is read back if its items are. -/
theorem read_list {α : Type} {read : Document → Option α} {write : α → Value} {xs : List α}
    (h : ∀ x ∈ xs, read (write x).toDocument = some x) :
    Document.list? read (Value.array (xs.map write)).toDocument = some xs := by
  rw [Value.toDocument, Value.itemDocuments_eq_map, Document.list?]
  induction xs with
  | nil => rfl
  | cons x xs ih =>
    rw [List.forall_mem_cons] at h
    rw [List.map_cons, List.map_cons, List.mapM_cons, h.1, ih h.2]
    rfl

theorem exact_textOrNull (s : Option String) : (Value.textOrNull s).Exact := by
  cases s with
  | none => exact .null
  | some s => exact .text s

/-- A list is written exactly if its items are. -/
theorem exact_list {α : Type} {write : α → Value} {xs : List α} (h : ∀ x ∈ xs, (write x).Exact) :
    (Value.array (xs.map write)).Exact := by
  apply Value.Exact.array
  intro item hitem
  obtain ⟨x, hx, rfl⟩ := List.mem_map.1 hitem
  exact h x hx

end Json

/-! ### Columns -/

namespace Column

/-- The limit of a column is one that its JSON form can hold. -/
def InRange (column : Column) : Prop :=
  ∀ n ∈ column.limit, (n : Int) ≤ maxLimit

instance (column : Column) : Decidable column.InRange :=
  inferInstanceAs (Decidable (∀ n ∈ column.limit, (n : Int) ≤ maxLimit))

/-- The fields of a column. -/
def row (column : Column) : List (String × Option Json.Value) :=
  [("name", some (.text column.name)), ("type", some (.text column.sqlType)),
    ("limit", column.limit.map Json.Value.ofNat), ("null", some (.boolean column.nullable)),
    ("primary", some (.boolean column.primary)),
    ("auto_increment", some (.boolean column.autoIncrement))]

theorem toJson_eq (column : Column) : column.toJson = .object (Json.givenMembers column.row) := by
  simp [toJson, row, Function.comp_def]

theorem exact_toJson {column : Column} (h : column.InRange) : column.toJson.Exact := by
  have hlimit : ∀ n ∈ column.limit, (Json.Value.ofNat n).Exact := by
    intro n hn
    have hmax := h n hn
    apply Json.Value.Exact.integer
    rw [maxLimit] at hmax
    rw [Json.InWord, Number.minInteger, Json.NumberLiteral.maxSignificand]
    omega
  rw [toJson_eq]
  apply Json.exact_givenMembers
  simpa [row, Json.Value.Exact.text, Json.Value.Exact.boolean] using hlimit

theorem read_limit {limit : Option Nat} (h : ∀ n ∈ limit, (n : Int) ≤ maxLimit) :
    Json.optional? none (Json.Document.nullable? limitOfDocument?)
      ((limit.map Json.Value.ofNat).map Json.Value.toDocument) = some limit := by
  cases limit with
  | none => rfl
  | some n =>
    show (limitOfDocument? (.number (some (.integer n)))).map some = some (some n)
    have hrange : 0 ≤ (n : Int) ∧ (n : Int) ≤ maxLimit := ⟨by omega, h n rfl⟩
    show ((if 0 ≤ (n : Int) ∧ (n : Int) ≤ maxLimit then some (n : Int).toNat else none)).map some = _
    rw [if_pos hrange]
    rfl

/-- **A written column is read back.** -/
theorem ofDocument?_toJson {column : Column} (h : column.InRange) :
    ofDocument? column.toJson.toDocument = some column := by
  have hfields := Json.fields?_givenMembers column.row (show fieldNames.Nodup by decide)
  rw [toJson_eq, ofDocument?]
  show ((Json.Document.fields? (column.row.map Prod.fst) _).bind _) = _
  rw [hfields]
  show (do
    let limit ← Json.optional? none (Json.Document.nullable? limitOfDocument?)
      ((column.limit.map Json.Value.ofNat).map Json.Value.toDocument)
    return { column with limit }) = some column
  rw [read_limit h]
  rfl

end Column

/-! ### Relationships -/

namespace Relationship

/-- The fields of a relationship. -/
def row (r : Relationship) : List (String × Option Json.Value) :=
  [("kind", some (Json.Value.textOrNull r.kind)), ("name", some (.text r.name)),
    ("class_name", r.className.map Json.Value.text), ("foreign_key", r.foreignKey.map Json.Value.text),
    ("primary_key", r.primaryKey.map Json.Value.text), ("as", r.role.map Json.Value.text),
    ("polymorphic", some (.boolean r.polymorphic)), ("foreign_type", r.foreignType.map Json.Value.text),
    ("inverse_of", r.inverseOf.map Json.Value.text), ("read_only", some (.boolean r.readOnly)),
    ("nested_form", some (.boolean r.nestedForm))]

theorem toJson_eq (r : Relationship) : r.toJson = .object (Json.givenMembers r.row) := by
  simp [toJson, row, Json.Value.textMember?, Function.comp_def]

theorem exact_toJson (r : Relationship) : r.toJson.Exact := by
  rw [toJson_eq]
  apply Json.exact_givenMembers
  simp [row, Json.Value.Exact.text, Json.Value.Exact.boolean, Json.exact_textOrNull]

/-- **A written relationship is read back.** -/
theorem ofDocument?_toJson (r : Relationship) : ofDocument? r.toJson.toDocument = some r := by
  have hfields := Json.fields?_givenMembers r.row (show fieldNames.Nodup by decide)
  rw [toJson_eq, ofDocument?]
  show ((Json.Document.fields? (r.row.map Prod.fst) _).bind _) = _
  rw [hfields]
  show (do
    let kind ← textField? (some (Json.Value.textOrNull r.kind).toDocument)
    let className ← textField? ((r.className.map Json.Value.text).map Json.Value.toDocument)
    let foreignKey ← textField? ((r.foreignKey.map Json.Value.text).map Json.Value.toDocument)
    let primaryKey ← textField? ((r.primaryKey.map Json.Value.text).map Json.Value.toDocument)
    let role ← textField? ((r.role.map Json.Value.text).map Json.Value.toDocument)
    let foreignType ← textField? ((r.foreignType.map Json.Value.text).map Json.Value.toDocument)
    let inverseOf ← textField? ((r.inverseOf.map Json.Value.text).map Json.Value.toDocument)
    return { r with kind, className, foreignKey, primaryKey, role, foreignType, inverseOf }) = some r
  simp only [textField?, Json.read_text, Json.read_textOrNull]
  rfl

end Relationship

/-! ### Declarations and catalogs -/

namespace TypeDeclaration

/-- The limits of all columns are ones that their JSON form can hold. -/
def InRange (decl : TypeDeclaration) : Prop :=
  ∀ column ∈ decl.columns, column.InRange

instance (decl : TypeDeclaration) : Decidable decl.InRange :=
  inferInstanceAs (Decidable (∀ column ∈ decl.columns, column.InRange))

/-- The fields of a declaration. -/
def row (decl : TypeDeclaration) : List (String × Option Json.Value) :=
  [("name", some (.text decl.name)), ("table", decl.table.map Json.Value.text),
    ("primary_key", decl.primaryKey.map Json.Value.text),
    ("columns", some (.array (decl.columns.map Column.toJson))),
    ("relationships", some (.array (decl.relationships.map Relationship.toJson)))]

theorem toJson_eq (decl : TypeDeclaration) : decl.toJson = .object (Json.givenMembers decl.row) := by
  simp [toJson, row, Json.Value.textMember?, Function.comp_def]

theorem exact_toJson {decl : TypeDeclaration} (h : decl.InRange) : decl.toJson.Exact := by
  have hcolumns : (Json.Value.array (decl.columns.map Column.toJson)).Exact := by
    apply Json.exact_list
    intro column hcolumn
    exact Column.exact_toJson (h column hcolumn)
  have hrelationships : (Json.Value.array (decl.relationships.map Relationship.toJson)).Exact := by
    apply Json.exact_list
    intro r _
    exact r.exact_toJson
  rw [toJson_eq]
  apply Json.exact_givenMembers
  simp [row, Json.Value.Exact.text, hcolumns, hrelationships]

/-- **A written declaration is read back.** -/
theorem ofDocument?_toJson {decl : TypeDeclaration} (h : decl.InRange) :
    ofDocument? decl.toJson.toDocument = some decl := by
  have hfields := Json.fields?_givenMembers decl.row (show fieldNames.Nodup by decide)
  have hcolumns : Json.Document.list? Column.ofDocument?
      (Json.Value.array (decl.columns.map Column.toJson)).toDocument = some decl.columns := by
    apply Json.read_list
    intro column hcolumn
    exact Column.ofDocument?_toJson (h column hcolumn)
  have hrelationships : Json.Document.list? Relationship.ofDocument?
      (Json.Value.array (decl.relationships.map Relationship.toJson)).toDocument =
        some decl.relationships := by
    apply Json.read_list
    intro r _
    exact r.ofDocument?_toJson
  rw [toJson_eq, ofDocument?]
  show ((Json.Document.fields? (decl.row.map Prod.fst) _).bind _) = _
  rw [hfields]
  show (do
    let table ← Json.optional? none (Json.Document.nullable? Json.Document.string?)
      ((decl.table.map Json.Value.text).map Json.Value.toDocument)
    let primaryKey ← Json.optional? none (Json.Document.nullable? Json.Document.string?)
      ((decl.primaryKey.map Json.Value.text).map Json.Value.toDocument)
    let columns ← Json.Document.list? Column.ofDocument?
      (Json.Value.array (decl.columns.map Column.toJson)).toDocument
    let relationships ← Json.Document.list? Relationship.ofDocument?
      (Json.Value.array (decl.relationships.map Relationship.toJson)).toDocument
    return { decl with table, primaryKey, columns, relationships }) = some decl
  rw [Json.read_text, Json.read_text, hcolumns, hrelationships]
  rfl

end TypeDeclaration

namespace Catalog

/-- The fields of a catalog with these declarations. -/
def row (decls : List TypeDeclaration) : List (String × Option Json.Value) :=
  [("types", some (.array (decls.map TypeDeclaration.toJson)))]

/-- The JSON form of a catalog with these declarations. -/
def document (decls : List TypeDeclaration) : Json.Value :=
  .object [("types", .array (decls.map TypeDeclaration.toJson))]

theorem document_eq (decls : List TypeDeclaration) :
    document decls = .object (Json.givenMembers (row decls)) :=
  rfl

variable {decls : List TypeDeclaration}

theorem exact_document (h : ∀ decl ∈ decls, decl.InRange) : (document decls).Exact := by
  have htypes : (Json.Value.array (decls.map TypeDeclaration.toJson)).Exact := by
    apply Json.exact_list
    intro decl hdecl
    exact TypeDeclaration.exact_toJson (h decl hdecl)
  rw [document_eq]
  apply Json.exact_givenMembers
  simpa [row] using htypes

/-- **The declarations of a written catalog are read back.** -/
theorem declarationsOfDocument?_document (h : ∀ decl ∈ decls, decl.InRange) :
    declarationsOfDocument? (document decls).toDocument = some decls := by
  have hfields := Json.fields?_givenMembers (row decls) (show ["types"].Nodup by decide)
  have htypes : Json.Document.list? TypeDeclaration.ofDocument?
      (Json.Value.array (decls.map TypeDeclaration.toJson)).toDocument = some decls := by
    apply Json.read_list
    intro decl hdecl
    exact TypeDeclaration.ofDocument?_toJson (h decl hdecl)
  rw [document_eq, declarationsOfDocument?]
  show ((Json.Document.fields? ((row decls).map Prod.fst) _).bind _) = _
  rw [hfields]
  exact htypes

/-- A text of a written catalog leads to the registration of its declarations. -/
theorem ofText_of_document (h : ∀ decl ∈ decls, decl.InRange) {text : String}
    (htext : Json.Document.ofText? text = some (document decls).toDocument) :
    ofText text = empty.registerAll decls := by
  apply ofText_eq_registerAll
  rw [declarationsOfText?, htext]
  exact declarationsOfDocument?_document h

end Catalog

/-- **Declarations that a catalog accepts are read back from their JSON form**: the printed document, and any
other text of the same document, gives the catalog of exactly these declarations, in the same order. -/
theorem written_catalogs_are_read_back {decls : List TypeDeclaration} {catalog : Catalog}
    (hlimits : ∀ decl ∈ decls, decl.InRange)
    (haccepted : Catalog.empty.registerAll decls = .ok catalog) :
    catalog.types = decls ∧
    Catalog.ofText (Catalog.document decls).render = .ok catalog ∧
    ∀ text, Json.Document.ofText? text = some (Catalog.document decls).toDocument →
      Catalog.ofText text = .ok catalog := by
  have htext : ∀ text, Json.Document.ofText? text = some (Catalog.document decls).toDocument →
      Catalog.ofText text = .ok catalog := by
    intro text htext
    rw [Catalog.ofText_of_document hlimits htext, haccepted]
  have hprinted := (Catalog.exact_document hlimits).ofText?_render
  exact ⟨Catalog.types_of_registerAll haccepted, htext _ hprinted, htext⟩

namespace League

/-- Players, with the widest text column and a relationship whose texts must be escaped. -/
def player : TypeDeclaration :=
  ⟨"Player", none, some "number",
    [(Column.ofNameType "number" "integer").asPrimaryKey,
      (Column.ofNameType "name" "varchar").withLimit 4294967295],
    [{ Relationship.ofKind "" "team" with
        kind := none, className := some "the \"team\"\n", role := some "", readOnly := true }]⟩

end League

/-- Players are read back with the limit of their names and the quotes in their relationship. -/
theorem written_catalogs_are_read_back_league :
    (∀ decl ∈ [League.division, League.player], decl.InRange) ∧
    Catalog.empty.registerAll [League.division, League.player] =
      .ok ⟨[League.division, League.player]⟩ ∧
    Catalog.ofText (Catalog.document [League.division, League.player]).render =
      .ok ⟨[League.division, League.player]⟩ := by
  have hlimits : ∀ decl ∈ [League.division, League.player], decl.InRange := by
    decide
  have haccepted : Catalog.empty.registerAll [League.division, League.player] =
      .ok ⟨[League.division, League.player]⟩ := by
    decide +kernel
  exact ⟨hlimits, haccepted, (written_catalogs_are_read_back hlimits haccepted).2.1⟩

end AdminQuery
