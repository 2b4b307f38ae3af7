import InterfaceSync.Schema.Model

/-!
# Required fields

A field must not be optional in the interface when a presence validation names it, or when it comes
from a `belongs_to` association that is marked as required.  Such an association stands for two
fields, the object and the number that refers to it.
-/

namespace InterfaceSync

/-- The fields that a validation requires. -/
def Validation.required (v : Validation) : List String :=
  if v.kind = .presence then v.attributes else []

/-- The fields that an association requires. -/
def Association.requiredFields (a : Association) : List String :=
  if a.kind = .belongsTo ∧ a.isMarkedRequired = true then [a.name, a.name ++ "_id"] else []

namespace Model

/-- The names of the fields that a model requires.  They are a set: order and repetition carry no
meaning, see `requiredInOrder`. -/
def required (m : Model) : List String :=
  m.validations.flatMap Validation.required ++ m.associations.flatMap Association.requiredFields

theorem mem_required {m : Model} {field : String} :
    field ∈ m.required ↔
      (∃ v ∈ m.validations, v.kind = .presence ∧ field ∈ v.attributes) ∨
      (∃ a ∈ m.associations, a.kind = .belongsTo ∧ a.isMarkedRequired = true ∧
        (field = a.name ∨ field = a.name ++ "_id")) := by
  simp only [required, List.mem_append, List.mem_flatMap, Validation.required,
    Association.requiredFields]
  constructor
  · rintro (⟨v, hv, h⟩ | ⟨a, ha, h⟩)
    · split at h
      · exact .inl ⟨v, hv, by assumption, h⟩
      · simp at h
    · split at h
      · rename_i hk
        exact .inr ⟨a, ha, hk.1, hk.2, by simpa using h⟩
      · simp at h
  · rintro (⟨v, hv, hk, h⟩ | ⟨a, ha, hk, hm, h⟩)
    · exact .inl ⟨v, hv, by rw [if_pos hk]; exact h⟩
    · exact .inr ⟨a, ha, by rw [if_pos ⟨hk, hm⟩]; simpa using h⟩

end Model

/-- Puts a text into a list that is in order, unless it is there already. -/
def insertText (s : String) : List String → List String
  | [] => [s]
  | first :: rest =>
    if s < first then s :: first :: rest
    else if s = first then first :: rest
    else first :: insertText s rest

/-- The required fields in the order of their characters, each of them once. -/
def Model.requiredInOrder (m : Model) : List String :=
  m.required.foldr insertText []

end InterfaceSync
