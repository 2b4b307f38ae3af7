import InterfaceSync.Schema.Decode
import InterfaceSync.Schema.Required
import Mathlib.Data.List.Basic

/-!
# Names of kinds in two spellings

The kinds of validations and of associations have two readers.  The one that reads a text takes the name
in any mixture of upper and lower case, the one that reads a manifest in exactly one spelling.  Where the
first one reads a kind, the second one reads the same kind if the name is spelled so; of any other
spelling it makes a validation that the application defines for itself, or no association at all.

* `ofSpelling?_of_ofText?`: the kind in any mixture of cases against the kind in one spelling.
* `required_decode?`: the fields that the validations of a manifest require.
* `decode?_of_ofText?`: the two readers, side by side.
-/

namespace InterfaceSync

/-! ## Kinds and their spellings -/

/-- A name in lower case, as far as the letters of ASCII go. -/
def loweredName (s : String) : String := String.ofList (s.toList.map Char.toLower)

section Spelling

variable {Kind : Type} {spelling : Kind → String} {all : List Kind}

/-- A kind that is found by its name in lower case is found by the name itself exactly if that is its
spelling: no other kind is spelled so in any case. -/
theorem find?_of_find?_lowered (found : ∀ k, all.find? (fun j => spelling j == spelling k) = some k)
    (lowered : ∀ k, loweredName (spelling k) = spelling k) {s : String} {k : Kind}
    (h : all.find? (fun j => spelling j == loweredName s) = some k) :
    all.find? (fun j => spelling j == s) = if s = spelling k then some k else none := by
  split
  · rename_i hs
    rw [hs, found k]
  · rename_i hs
    rw [List.find?_eq_none]
    intro j _ hj
    -- The name is the spelling of `j`, so in lower case it is still that, and `j` is found by it.
    have hname : spelling j = s := eq_of_beq hj
    rw [← hname, lowered j, found j, Option.some.injEq] at h
    rw [← hname, h] at hs
    exact hs rfl

end Spelling

namespace ValidationKind

theorem ofSpelling?_spelling (k : ValidationKind) : ofSpelling? k.spelling = some k := by
  cases k with
  | _ => rfl

theorem loweredName_spelling (k : ValidationKind) : loweredName k.spelling = k.spelling := by
  cases k with
  | _ => rfl

/-- What is read of a name is a presence validation exactly if that is the name. -/
theorem getD_ofSpelling?_eq_presence_iff {s : String} :
    (ofSpelling? s).getD .custom = .presence ↔ s = presence.spelling := by
  constructor
  · intro h
    cases hs : ofSpelling? s with
    | none =>
      rw [hs] at h
      cases h
    | some k =>
      rw [hs] at h
      obtain rfl : k = .presence := h
      unfold ofSpelling? at hs
      have hspelling := List.find?_some hs
      exact (eq_of_beq hspelling).symm
  · rintro rfl
    rw [ofSpelling?_spelling]
    rfl

/-- A kind in any mixture of cases is a kind in one spelling exactly if it is spelled so. -/
theorem ofSpelling?_of_ofText? {s : String} {k : ValidationKind} (h : ofText? s = some k) :
    ofSpelling? s = if s = k.spelling then some k else none :=
  find?_of_find?_lowered ofSpelling?_spelling loweredName_spelling h

end ValidationKind

namespace AssociationKind

theorem ofSpelling?_spelling (k : AssociationKind) : ofSpelling? k.spelling = some k := by
  cases k with
  | _ => rfl

theorem loweredName_spelling (k : AssociationKind) : loweredName k.spelling = k.spelling := by
  cases k with
  | _ => rfl

/-- A kind in any mixture of cases is a kind in one spelling exactly if it is spelled so. -/
theorem ofSpelling?_of_ofText? {s : String} {k : AssociationKind} (h : ofText? s = some k) :
    ofSpelling? s = if s = k.spelling then some k else none :=
  find?_of_find?_lowered ofSpelling?_spelling loweredName_spelling h

end AssociationKind

/-! ## What a manifest says -/

section Manifest

variable (format : DataFormat)

/-- A validation in a manifest. -/
def Validation.datum (kind : Datum) (attributes : List String) : Datum :=
  .record [("kind", kind), ("attributes", Datum.ofTexts attributes)]

/-- A model in a manifest of which only the name and the validations are given. -/
def Model.datum (name : String) (validations : List Datum) : Datum :=
  .record [("name", .text name), ("validators", .list validations)]

/-- A list is read item by item. -/
theorem Datum.asList?_map {α β : Type} {item? : Datum → Option β} {write : α → Datum} {f : α → β}
    (h : ∀ a, item? (write a) = some (f a)) (items : List α) :
    Datum.asList? item? (.list (items.map write)) = some (items.map f) := by
  have hpure : items.mapM (fun a => pure (f a)) = some (items.map f) := List.mapM_pure
  rw [Datum.asList?, List.mapM_map, ← hpure]
  exact congrArg (items.mapM ·) (funext h)

theorem Datum.asList?_ofTexts (items : List String) :
    Datum.asList? Datum.asText? (Datum.ofTexts items) = some items := by
  have hitem (s : String) : Datum.asText? (.text s) = some (id s) := rfl
  rw [Datum.ofTexts, Datum.asList?_map hitem, List.map_id]

theorem ValidationKind.decode?_of_asKindName? {d : Datum} {s : String}
    (hd : d.asKindName? format = some s) :
    ValidationKind.decode? format d = some ((ofSpelling? s).getD .custom) := by
  rw [decode?, hd, Option.map_some]

theorem AssociationKind.decode?_of_asKindName? {d : Datum} {s : String}
    (hd : d.asKindName? format = some s) : AssociationKind.decode? format d = ofSpelling? s := by
  rw [decode?, hd, Option.bind_some]

/-- A validation is read if there is the name of a kind, and it requires its attributes exactly if that
name is the spelling of the kind. -/
theorem Validation.decode?_datum {kind : Datum} {s : String} (hkind : kind.asKindName? format = some s)
    (attributes : List String) :
    ∃ v, Validation.decode? format (Validation.datum kind attributes) = some v ∧
      v.required = if s = "presence" then attributes else [] := by
  have hparts : (Validation.datum kind attributes).parts? format [["kind"], ["attributes"]] =
      some [some kind, some (Datum.ofTexts attributes)] := rfl
  refine ⟨⟨(ValidationKind.ofSpelling? s).getD .custom, attributes⟩, ?_, ?_⟩
  · rw [Validation.decode?, hparts]
    simp [ValidationKind.decode?_of_asKindName? format hkind, Datum.orElse, Datum.asList?_ofTexts]
  · simp only [Validation.required, ValidationKind.getD_ofSpelling?_eq_presence_iff]
    rfl

/-- The validations of a manifest, one after the other. -/
theorem Validation.mapM_decode?_datum {validations : List (Datum × List String)}
    (named : ∀ p ∈ validations, (p.1.asKindName? format).isSome = true) :
    ∃ list, (validations.map fun p => Validation.datum p.1 p.2).mapM (Validation.decode? format) =
        some list ∧
      list.flatMap Validation.required = validations.flatMap fun p =>
        if p.1.asKindName? format = some "presence" then p.2 else [] := by
  induction validations with
  | nil => exact ⟨[], rfl, rfl⟩
  | cons p rest ih =>
    obtain ⟨hp, hrest⟩ := List.forall_mem_cons.1 named
    obtain ⟨s, hs⟩ := Option.isSome_iff_exists.1 hp
    obtain ⟨v, hv, hrequired⟩ := Validation.decode?_datum format hs p.2
    obtain ⟨list, hlist, hall⟩ := ih hrest
    refine ⟨v :: list, ?_, ?_⟩
    · rw [List.map_cons, List.mapM_cons, hv, hlist]
      rfl
    · rw [List.flatMap_cons, List.flatMap_cons, hrequired, hall, hs]
      simp only [Option.some.injEq]

/-- **The fields that the validations of a manifest require** are the attributes of those whose kind is
spelled `presence`, in one way and no other. -/
theorem Model.required_decode?_datum (name : String) {validations : List (Datum × List String)}
    (named : ∀ p ∈ validations, (p.1.asKindName? format).isSome = true) :
    ∃ m, Model.decode? format (Model.datum name (validations.map fun p => Validation.datum p.1 p.2)) =
        some m ∧
      m.required = validations.flatMap fun p =>
        if p.1.asKindName? format = some "presence" then p.2 else [] := by
  obtain ⟨list, hlist, hall⟩ := Validation.mapM_decode?_datum format named
  have hparts : (Model.datum name (validations.map fun p => Validation.datum p.1 p.2)).parts? format
      [["name"], ["fields"], ["validators"], ["associations"]] =
        some [some (.text name), none,
          some (.list (validations.map fun p => Validation.datum p.1 p.2)), none] := rfl
  refine ⟨⟨name, [], list, []⟩, ?_, ?_⟩
  · rw [Model.decode?, hparts]
    simp [Datum.asText?, Datum.orElse, Datum.asList?, hlist]
  · rw [Model.required, List.flatMap_nil, List.append_nil, hall]

end Manifest

/-! ## The two readers -/

/-- **Where the reader of texts reads a kind, the reader of manifests reads the same kind exactly if its
name is spelled in lower case.**  Of any other spelling it makes a validation of the application and no
association, and among the validations of a model only those that are spelled `presence` require their
attributes. -/
theorem decode?_of_ofText? (format : DataFormat) :
    (∀ (d : Datum) (s : String) (k : ValidationKind), d.asKindName? format = some s →
      ValidationKind.ofText? s = some k →
        ValidationKind.decode? format d = some (if s = k.spelling then k else .custom)) ∧
    (∀ (d : Datum) (s : String) (k : AssociationKind), d.asKindName? format = some s →
      AssociationKind.ofText? s = some k →
        AssociationKind.decode? format d = if s = k.spelling then some k else none) ∧
    ∀ (name : String) (validations : List (Datum × List String)),
      (∀ p ∈ validations, (p.1.asKindName? format).isSome = true) →
        ∃ m, Model.decode? format
            (Model.datum name (validations.map fun p => Validation.datum p.1 p.2)) = some m ∧
          m.required = validations.flatMap fun p =>
            if p.1.asKindName? format = some "presence" then p.2 else [] := by
  refine ⟨fun d s k hd hk => ?_, fun d s k hd hk => ?_, fun name validations named => ?_⟩
  · rw [ValidationKind.decode?_of_asKindName? format hd, ValidationKind.ofSpelling?_of_ofText? hk]
    split
    · rfl
    · rfl
  · rw [AssociationKind.decode?_of_asKindName? format hd, AssociationKind.ofSpelling?_of_ofText? hk]
  · exact Model.required_decode?_datum format name named

/-- A presence validation that is written with a capital letter. -/
theorem decode?_of_ofText?_capital :
    ValidationKind.decode? .json (.text "Presence") = some .custom ∧
      AssociationKind.decode? .json (.text "belongs_to") = some .belongsTo :=
  ⟨(decode?_of_ofText? .json).1 (.text "Presence") "Presence" .presence rfl rfl,
    (decode?_of_ofText? .json).2.1 (.text "belongs_to") "belongs_to" .belongsTo rfl rfl⟩

/-- **The two readers do not agree**: what one of them reads as a presence validation requires nothing
in a manifest, and what it reads as an association cannot be read there. -/
theorem ofText?_ne_decode? :
    ValidationKind.ofText? "Presence" = some .presence ∧
      ValidationKind.decode? .toml (.text "Presence") = some .custom ∧
      ((Model.decode? .toml (Model.datum "post" [Validation.datum (.text "Presence") ["title"]])).map
        Model.required = some []) ∧
      AssociationKind.ofText? "Belongs_To" = some .belongsTo ∧
      AssociationKind.decode? .toml (.text "Belongs_To") = none := by
  decide +kernel

end InterfaceSync
