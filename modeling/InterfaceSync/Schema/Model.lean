import InterfaceSync.Naming
import InterfaceSync.Schema.FieldType

/-!
# Models

A model has a name, fields, validations and associations.  Only two things about the last two matter
for its interface: which fields a presence validation names, and which `belongs_to` associations are
marked as required.  Both are read off in `Schema.Required`; here is what a model says.
-/

namespace InterfaceSync

/-- A field of a model.  A reference may name the model that it refers to; if it does not, the name of
the field is the name of that model. -/
structure Field where
  name : String
  type : FieldType
  target : Option String
  deriving DecidableEq, Repr

namespace Field

/-- The interface of the object that a reference refers to. -/
def objectType (f : Field) : String :=
  Naming.pascal (f.target.getD f.name)

end Field

/-- The kinds of validations.  Those that an application defines for itself are all `custom`. -/
inductive ValidationKind where
  | presence
  | absence
  | length
  | format
  | numericality
  | uniqueness
  | inclusion
  | exclusion
  | acceptance
  | confirmation
  | comparison
  | custom
  deriving DecidableEq, Repr

namespace ValidationKind

/-- All kinds of validations. -/
def all : List ValidationKind :=
  [presence, absence, length, format, numericality, uniqueness, inclusion, exclusion, acceptance,
    confirmation, comparison, custom]

/-- The name of a kind. -/
def spelling : ValidationKind → String
  | presence => "presence"
  | absence => "absence"
  | length => "length"
  | format => "format"
  | numericality => "numericality"
  | uniqueness => "uniqueness"
  | inclusion => "inclusion"
  | exclusion => "exclusion"
  | acceptance => "acceptance"
  | confirmation => "confirmation"
  | comparison => "comparison"
  | custom => "custom"

/-- The kind with a given name, in exactly this spelling. -/
def ofSpelling? (s : String) : Option ValidationKind :=
  all.find? fun k => k.spelling == s

/-- The kind with a given name, in any mixture of upper and lower case. -/
def ofText? (s : String) : Option ValidationKind :=
  ofSpelling? (String.ofList (s.toList.map Char.toLower))

end ValidationKind

/-- A validation and the names of the fields that it speaks of. -/
structure Validation where
  kind : ValidationKind
  attributes : List String
  deriving DecidableEq, Repr

/-- The kinds of associations between models. -/
inductive AssociationKind where
  | belongsTo
  | hasOne
  | hasMany
  | hasAndBelongsToMany
  deriving DecidableEq, Repr

namespace AssociationKind

/-- All kinds of associations. -/
def all : List AssociationKind := [belongsTo, hasOne, hasMany, hasAndBelongsToMany]

/-- The name of a kind. -/
def spelling : AssociationKind → String
  | belongsTo => "belongs_to"
  | hasOne => "has_one"
  | hasMany => "has_many"
  | hasAndBelongsToMany => "has_and_belongs_to_many"

/-- The kind with a given name, in exactly this spelling. -/
def ofSpelling? (s : String) : Option AssociationKind :=
  all.find? fun k => k.spelling == s

/-- The kind with a given name, in any mixture of upper and lower case. -/
def ofText? (s : String) : Option AssociationKind :=
  ofSpelling? (String.ofList (s.toList.map Char.toLower))

end AssociationKind

/-- An association.  Whether it is optional and whether it is required are two marks of their own,
each of which may be absent. -/
structure Association where
  name : String
  kind : AssociationKind
  optional : Option Bool
  required : Option Bool
  deriving DecidableEq, Repr

namespace Association

/-- Whether one of the two marks says that the association has to be there. -/
def isMarkedRequired (a : Association) : Bool :=
  a.optional == some false || a.required == some true

end Association

/-- A model of the backend. -/
structure Model where
  name : String
  fields : List Field
  validations : List Validation
  associations : List Association
  deriving DecidableEq, Repr

namespace Model

/-- A model of which only the name is known. -/
def named (name : String) : Model := ⟨name, [], [], []⟩

/-- The name of the interface that belongs to a model. -/
def interfaceName (m : Model) : String := Naming.pascal m.name

/-- The key under which a model is looked up. -/
def key (m : Model) : String := Naming.snake m.name

end Model
end InterfaceSync
