import InterfaceSync.Fault
import InterfaceSync.Schema.Model

/-!
# The catalogue of models

The models that are known, each under the key of its name.  Names that have the same words have the
same key, so a model is found under every spelling of its name, and a second model with the same key
is refused.  The models stand in the order of their keys, and no key occurs twice; the type says so,
which makes a catalogue determined by the models in it.
-/

namespace InterfaceSync

/-- Models in the order of their keys, no two with the same key. -/
structure Catalogue where
  models : List Model
  sorted : models.Pairwise fun a b => a.key < b.key := by exact .nil

namespace Catalogue

/-- The catalogue without models. -/
def empty : Catalogue where
  models := []

/-- How many models there are. -/
def size (c : Catalogue) : Nat := c.models.length

/-- The model that a name stands for. -/
def find? (c : Catalogue) (name : String) : Option Model :=
  c.models.find? fun m => m.key == Naming.snake name

/-- The model that a name stands for, or the failure that there is none. -/
def get (c : Catalogue) (name : String) : Except Fault Model :=
  match c.find? name with
  | some m => .ok m
  | none => .error (.missingModel name)

/-- Puts a model in front of the first one with a greater key. -/
def place (m : Model) : List Model → List Model
  | [] => [m]
  | first :: rest => if m.key < first.key then m :: first :: rest else first :: place m rest

theorem mem_place {m x : Model} {list : List Model} : x ∈ place m list ↔ x = m ∨ x ∈ list := by
  induction list with
  | nil => simp [place]
  | cons first rest ih =>
    simp only [place]
    split
    · simp
    · simp only [List.mem_cons, ih]
      exact ⟨fun h => h.elim (.inr ∘ .inl) (·.imp_right .inr),
        fun h => h.elim (.inr ∘ .inl) (·.imp_right .inr)⟩

theorem pairwise_place {m : Model} {list : List Model}
    (sorted : list.Pairwise fun a b => a.key < b.key) (fresh : ∀ x ∈ list, x.key ≠ m.key) :
    (place m list).Pairwise fun a b => a.key < b.key := by
  induction list with
  | nil => exact List.pairwise_singleton _ _
  | cons first rest ih =>
    simp only [place]
    rw [List.pairwise_cons] at sorted
    split
    · rename_i h
      rw [List.pairwise_cons, List.pairwise_cons]
      refine ⟨fun x hx => ?_, sorted⟩
      rcases List.mem_cons.1 hx with rfl | hx
      · exact h
      · exact String.lt_trans h (sorted.1 x hx)
    · rename_i h
      rw [List.pairwise_cons]
      refine ⟨fun x hx => ?_, ih sorted.2 fun x hx => fresh x (List.mem_cons_of_mem _ hx)⟩
      rcases mem_place.1 hx with rfl | hx
      · -- The keys differ and the new one is not the smaller, so it is the greater.
        exact Decidable.byContradiction fun hlt =>
          fresh first List.mem_cons_self (String.le_antisymm (String.not_lt.1 h) (String.not_lt.1 hlt))
      · exact sorted.1 x hx

/-- Puts a model into the catalogue; the failure is that its key is taken. -/
def register (c : Catalogue) (m : Model) : Except Fault Catalogue :=
  if h : ∃ x ∈ c.models, x.key = m.key then .error (.duplicateModel m.name)
  else
    .ok
      { models := place m c.models
        sorted := pairwise_place c.sorted fun x hx e => h ⟨x, hx, e⟩ }

/-- Puts models into the catalogue one after the other. -/
def registerAll (c : Catalogue) : List Model → Except Fault Catalogue
  | [] => .ok c
  | m :: rest =>
    match c.register m with
    | .ok c => c.registerAll rest
    | .error fault => .error fault

end Catalogue
end InterfaceSync
