import AdminQuery.Text.Blank

/-!
# Kinds of association

* `AssociationKind`: which side holds the key, and how many records are on the far side
* `AssociationKind.ofToken?`: the kind of a declaration's token
-/

namespace AdminQuery

/-- Which side of an association holds the key, and how many records are on the far side. -/
inductive AssociationKind where
  /-- This type holds the key of one other record. -/
  | belongsTo
  /-- One other record holds the key of this type. -/
  | hasOne
  /-- Many other records hold the key of this type. -/
  | hasMany
  /-- A third relation holds both keys. -/
  | manyToMany
  deriving DecidableEq, Repr

namespace AssociationKind

/-- The name of a kind. -/
def name : AssociationKind → String
  | belongsTo => "belongs_to"
  | hasOne => "has_one"
  | hasMany => "has_many"
  | manyToMany => "many_to_many"

/-- The kind of a token, blanks around it aside; `many_to_many` has a second name. -/
def ofToken? (token : String) : Option AssociationKind :=
  let plain := Text.trim token
  if plain = "belongs_to" then some belongsTo
  else if plain = "has_one" then some hasOne
  else if plain = "has_many" then some hasMany
  else if plain = "many_to_many" ∨ plain = "has_and_belongs_to_many" then some manyToMany
  else none

/-- One record on the far side. -/
def isSingular : AssociationKind → Bool
  | belongsTo | hasOne => true
  | hasMany | manyToMany => false

/-- Many records on the far side. -/
def isCollection (kind : AssociationKind) : Bool :=
  !kind.isSingular

end AssociationKind

end AdminQuery
