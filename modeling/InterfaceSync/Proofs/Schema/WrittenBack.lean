import InterfaceSync.Proofs.Schema.KindName
import InterfaceSync.Proofs.Trimming

/-!
# Models written back

What is written of a model can always be read, and it is that model with the types of its fields read
once more (`Model.decode?_encode`).  Only there can anything be lost: a type is written under a name, and
a name with white space around it, or one that is another spelling of a known name, is not read as it
was written.  No such name comes out of reading.

* `FieldType.IsStable`, `FieldType.isStable_ofText`: a type that was read is read again as it is.
* `Model.decode?_encode_of_decode?`: a model that was read in whatever way is written back so that it is
  read again as it is.
-/

namespace InterfaceSync

/-! ## Types of fields -/

namespace FieldType

/-- A type that is read as it is from the name under which it is written. -/
def IsStable (t : FieldType) : Prop := ofText t.spelling = t

/-- Only the white space around a name can tell two names apart that are read differently. -/
theorem ofText_congr {s t : String} (h : Text.trim s.toList = Text.trim t.toList) :
    ofText s = ofText t := by
  unfold ofText
  rw [h]

/-- A name is read as a known type, as no name at all, or as itself. -/
theorem ofText_cases (s : String) :
    ofText s ∈ [integer, float, decimal, boolean, reference, unspecified] ∨
      ofText s = other (String.ofList (Text.trim s.toList)) := by
  unfold ofText
  simp only
  split
  all_goals simp

/-- **A type that was read is read again as it is.** -/
theorem isStable_ofText (s : String) : (ofText s).IsStable := by
  unfold IsStable
  rcases ofText_cases s with hknown | hother
  · generalize ofText s = t at hknown
    simp only [List.mem_cons, List.not_mem_nil, or_false] at hknown
    rcases hknown with rfl | rfl | rfl | rfl | rfl | rfl
    all_goals decide
  · -- The name is written without the white space, which is all that was taken from it.
    have htrim : Text.trim (ofText s).spelling.toList = Text.trim s.toList := by
      rw [hother, spelling, String.toList_ofList, Text.trim_trim]
    exact ofText_congr htrim

theorem isStable_unspecified : unspecified.IsStable := isStable_ofText ""

theorem isStable_of_decode? {d : Datum} {t : FieldType} (h : decode? d = some t) : t.IsStable := by
  obtain ⟨s, -, rfl⟩ := Option.map_eq_some_iff.1 h
  exact isStable_ofText s

end FieldType

/-! ## Parts of a structure -/

namespace Datum

variable {α β : Type}

/-- A part that was read, or left out, is one that can be read or the one it is left out for. -/
theorem of_orElse {read? : Datum → Option α} {default a : α} {part : Option Datum} {P : α → Prop}
    (left : P default) (given : ∀ d, read? d = some a → P a)
    (h : orElse read? default part = some a) : P a := by
  cases part with
  | none =>
    rw [← Option.some.inj h]
    exact left
  | some d => exact given d h

/-- The items of a list that was read are items that can be read. -/
theorem exists_of_mem_asList? {item? : Datum → Option α} {d : Datum} {items : List α}
    (h : asList? item? d = some items) : ∀ a ∈ items, ∃ d', item? d' = some a := by
  cases d with
  | list written =>
    replace h : written.mapM item? = some items := h
    induction written generalizing items with
    | nil =>
      rw [List.mapM_nil] at h
      rw [← Option.some.inj h]
      simp
    | cons d rest ih =>
      rw [List.mapM_cons] at h
      obtain ⟨a, ha, h⟩ := Option.bind_eq_some_iff.1 h
      obtain ⟨tail, htail, h⟩ := Option.bind_eq_some_iff.1 h
      rw [← Option.some.inj h, List.forall_mem_cons]
      exact ⟨⟨d, ha⟩, ih htail⟩
  | _ => simp [asList?] at h

/-- A part that may be missing is read as it was written, or left out. -/
theorem orElse_asOption?_map {read? : Datum → Option α} {write : α → Datum}
    (h : ∀ a, asOption? read? (write a) = some (some a)) (part : Option α) :
    orElse (asOption? read?) none (part.map write) = some part := by
  cases part with
  | none => rfl
  | some a => exact h a

end Datum

/-! ## Structures -/

section Structures

variable (format : DataFormat)

/-- A field whose type is read once more from the name under which it is written. -/
def Field.reread (f : Field) : Field := { f with type := .ofText f.type.spelling }

/-- A model whose field types are read once more. -/
def Model.reread (m : Model) : Model := { m with fields := m.fields.map Field.reread }

theorem Field.decode?_encode (f : Field) : Field.decode? format f.encode = some f.reread := by
  have hparts : f.encode.parts? format [["name"], ["kind"], ["referenced_name", "class_name"]] =
      some [some (.text f.name), some f.type.encode, f.target.map Datum.text] := by
    cases htarget : f.target with
    | none => rw [encode, htarget]; rfl
    | some target => rw [encode, htarget]; rfl
  have htype : Datum.orElse FieldType.decode? .unspecified (some f.type.encode) =
      some (.ofText f.type.spelling) := rfl
  have htarget : Datum.orElse (Datum.asOption? Datum.asText?) none (f.target.map Datum.text) =
      some f.target :=
    Datum.orElse_asOption?_map (fun _ => rfl) f.target
  rw [decode?, hparts]
  simp [htype, htarget, Datum.asText?, reread]

theorem Validation.decode?_encode (v : Validation) :
    Validation.decode? format v.encode = some v := by
  have hkind : ValidationKind.decode? format v.kind.encode = some v.kind := by
    rw [ValidationKind.decode?_of_asKindName? format (s := v.kind.spelling) rfl,
      ValidationKind.ofSpelling?_spelling, Option.getD_some]
  have hparts : v.encode.parts? format [["kind"], ["attributes"]] =
      some [some v.kind.encode, some (Datum.ofTexts v.attributes)] := rfl
  rw [decode?, hparts]
  simp [hkind, Datum.orElse, Datum.asList?_ofTexts]

theorem Association.decode?_encode (a : Association) :
    Association.decode? format a.encode = some a := by
  have hkind : AssociationKind.decode? format a.kind.encode = some a.kind := by
    rw [AssociationKind.decode?_of_asKindName? format (s := a.kind.spelling) rfl,
      AssociationKind.ofSpelling?_spelling]
  have hparts : a.encode.parts? format [["name"], ["kind"], ["optional"], ["required"]] =
      some [some (.text a.name), some a.kind.encode, a.optional.map Datum.bool,
        a.required.map Datum.bool] := by
    cases hoptional : a.optional with
    | none => cases hrequired : a.required <;> rw [encode, hoptional, hrequired] <;> rfl
    | some b => cases hrequired : a.required <;> rw [encode, hoptional, hrequired] <;> rfl
  have hmark (mark : Option Bool) :
      Datum.orElse (Datum.asOption? Datum.asBool?) none (mark.map Datum.bool) = some mark :=
    Datum.orElse_asOption?_map (fun _ => rfl) mark
  rw [decode?, hparts]
  simp [hkind, hmark, Datum.asText?]

/-- **What is written of a model is read**, in either format, as the model with its field types read once
more. -/
theorem Model.decode?_encode (m : Model) : Model.decode? format m.encode = some m.reread := by
  have hparts : m.encode.parts? format [["name"], ["fields"], ["validators"], ["associations"]] =
      some [some (.text m.name), some (.list (m.fields.map Field.encode)),
        some (.list (m.validations.map Validation.encode)),
        some (.list (m.associations.map Association.encode))] := rfl
  have hfields := Datum.asList?_map (Field.decode?_encode format) m.fields
  have hvalidations := Datum.asList?_map (f := id) (Validation.decode?_encode format) m.validations
  have hassociations := Datum.asList?_map (f := id) (Association.decode?_encode format) m.associations
  rw [decode?, hparts]
  simp [hfields, hvalidations, hassociations, Datum.asText?, Datum.orElse, reread]

variable {format}

theorem Field.isStable_of_decode? {d : Datum} {f : Field} (h : Field.decode? format d = some f) :
    f.type.IsStable := by
  rw [decode?] at h
  obtain ⟨parts, -, h⟩ := Option.bind_eq_some_iff.1 h
  split at h
  · obtain ⟨name, -, h⟩ := Option.bind_eq_some_iff.1 h
    obtain ⟨type, htype, h⟩ := Option.bind_eq_some_iff.1 h
    obtain ⟨target, -, h⟩ := Option.bind_eq_some_iff.1 h
    rw [← Option.some.inj h]
    exact Datum.of_orElse FieldType.isStable_unspecified
      (fun _ => FieldType.isStable_of_decode?) htype
  · simp at h

theorem Model.isStable_of_decode? {d : Datum} {m : Model} (h : Model.decode? format d = some m) :
    ∀ f ∈ m.fields, f.type.IsStable := by
  rw [decode?] at h
  obtain ⟨parts, -, h⟩ := Option.bind_eq_some_iff.1 h
  split at h
  · obtain ⟨name, -, h⟩ := Option.bind_eq_some_iff.1 h
    obtain ⟨fields, hfields, h⟩ := Option.bind_eq_some_iff.1 h
    obtain ⟨validations, -, h⟩ := Option.bind_eq_some_iff.1 h
    obtain ⟨associations, -, h⟩ := Option.bind_eq_some_iff.1 h
    rw [← Option.some.inj h]
    refine Datum.of_orElse (P := fun fields => ∀ f ∈ fields, f.type.IsStable) (by simp) ?_ hfields
    intro d hd f hf
    obtain ⟨d', hd'⟩ := Datum.exists_of_mem_asList? hd f hf
    exact Field.isStable_of_decode? hd'
  · simp at h

/-- Nothing changes for a model all of whose field types are read as they are written. -/
theorem Model.reread_eq_self {m : Model} (h : ∀ f ∈ m.fields, f.type.IsStable) : m.reread = m := by
  have hfields : m.fields.map Field.reread = m.fields := by
    conv_rhs => rw [← List.map_id m.fields]
    refine List.map_congr_left fun f hf => ?_
    rw [Field.reread, h f hf, id]
  rw [reread, hfields]

end Structures

/-- **Writing a model and reading it again gives the same model**, for every model that was read in any
way: as a record or as a list, with a part left out or `null`, by the other name of a part, and with its
kinds in any spelling that is read. -/
theorem Model.decode?_encode_of_decode? {format : DataFormat} {d : Datum} {m : Model}
    (h : Model.decode? format d = some m) (other : DataFormat) :
    Model.decode? other m.encode = some m := by
  rw [Model.decode?_encode, Model.reread_eq_self (Model.isStable_of_decode? h)]

/-- A model as a list of its parts.  Its fields are records and lists in turn, with names of types in
several spellings and a class for a target, and a mark of its association is `null`. -/
def articleDatum : Datum :=
  .list
    [.text "article",
      .list
        [.record [("name", .text "author"), ("kind", .text " Belongs_To\t"), ("class_name", .text "user")],
          .list [.text "views", .text "BigInt", .null],
          .record [("name", .text "published_on"), ("kind", .text "\u2003DateTime ")],
          .record [("kind", .text " "), ("name", .text "title")]],
      .list [.record [("kind", .record [("email_format", .null)]), ("attributes", Datum.ofTexts ["title"])]],
      .list
        [.record [("name", .text "author"), ("kind", .text "belongs_to"), ("optional", .null),
          ("required", .bool true)]]]

/-- The model that is read there. -/
def article : Model where
  name := "article"
  fields :=
    [⟨"author", .reference, some "user"⟩, ⟨"views", .integer, none⟩,
      ⟨"published_on", .other "DateTime", none⟩, ⟨"title", .unspecified, none⟩]
  validations := [⟨.custom, ["title"]⟩]
  associations := [⟨"author", .belongsTo, none, some true⟩]

/-- The model is read from the list of its parts, and is the same when it was written and read again. -/
theorem Model.decode?_encode_of_decode?_article :
    Model.decode? .json articleDatum = some article ∧
      Model.decode? .json article.encode = some article := by
  have hread : Model.decode? .json articleDatum = some article := by decide +kernel
  exact ⟨hread, Model.decode?_encode_of_decode? hread .json⟩

end InterfaceSync
