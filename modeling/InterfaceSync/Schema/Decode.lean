import InterfaceSync.Data.Format
import InterfaceSync.Schema.Model

/-!
# Models in data

How models are written in a manifest.  Names of kinds are spelled exactly here: a validation of a kind
that is not known is one that the application defines for itself, and an association of such a kind
is an error.  The kind of a field is read more generously, see `FieldType.ofText`.

What is written back names every part of a model and of a validation; of a field and of an association
only the parts that are set.  Reading what was written gives the same model.
-/

namespace InterfaceSync

/-- Reads the kind of a field. -/
def FieldType.decode? (d : Datum) : Option FieldType :=
  d.asText?.map FieldType.ofText

/-- The kind of a field as data. -/
def FieldType.encode (t : FieldType) : Datum := .text t.spelling

/-- Reads a field. -/
def Field.decode? (format : DataFormat) (d : Datum) : Option Field := do
  match ← d.parts? format [["name"], ["kind"], ["referenced_name", "class_name"]] with
  | [name, type, target] =>
    some
      { name := ← name.bind Datum.asText?
        type := ← Datum.orElse FieldType.decode? .unspecified type
        target := ← Datum.orElse (Datum.asOption? Datum.asText?) none target }
  | _ => none

/-- A field as data. -/
def Field.encode (f : Field) : Datum :=
  .record ([("name", .text f.name), ("kind", f.type.encode)]
    ++ (f.target.map fun t => ("referenced_name", Datum.text t)).toList)

/-- Reads the kind of a validation. -/
def ValidationKind.decode? (format : DataFormat) (d : Datum) : Option ValidationKind :=
  (d.asKindName? format).map fun name => (ofSpelling? name).getD .custom

/-- The kind of a validation as data. -/
def ValidationKind.encode (k : ValidationKind) : Datum := .text k.spelling

/-- Reads a validation. -/
def Validation.decode? (format : DataFormat) (d : Datum) : Option Validation := do
  match ← d.parts? format [["kind"], ["attributes"]] with
  | [kind, attributes] =>
    some
      { kind := ← kind.bind (ValidationKind.decode? format)
        attributes := ← Datum.orElse (Datum.asList? Datum.asText?) [] attributes }
  | _ => none

/-- A validation as data. -/
def Validation.encode (v : Validation) : Datum :=
  .record [("kind", v.kind.encode), ("attributes", Datum.ofTexts v.attributes)]

/-- Reads the kind of an association. -/
def AssociationKind.decode? (format : DataFormat) (d : Datum) : Option AssociationKind :=
  (d.asKindName? format).bind ofSpelling?

/-- The kind of an association as data. -/
def AssociationKind.encode (k : AssociationKind) : Datum := .text k.spelling

/-- Reads an association. -/
def Association.decode? (format : DataFormat) (d : Datum) : Option Association := do
  match ← d.parts? format [["name"], ["kind"], ["optional"], ["required"]] with
  | [name, kind, optional, required] =>
    some
      { name := ← name.bind Datum.asText?
        kind := ← kind.bind (AssociationKind.decode? format)
        optional := ← Datum.orElse (Datum.asOption? Datum.asBool?) none optional
        required := ← Datum.orElse (Datum.asOption? Datum.asBool?) none required }
  | _ => none

/-- An association as data. -/
def Association.encode (a : Association) : Datum :=
  .record ([("name", .text a.name), ("kind", a.kind.encode)]
    ++ (a.optional.map fun b => ("optional", Datum.bool b)).toList
    ++ (a.required.map fun b => ("required", Datum.bool b)).toList)

/-- Reads a model. -/
def Model.decode? (format : DataFormat) (d : Datum) : Option Model := do
  match ← d.parts? format [["name"], ["fields"], ["validators"], ["associations"]] with
  | [name, fields, validations, associations] =>
    some
      { name := ← name.bind Datum.asText?
        fields := ← Datum.orElse (Datum.asList? (Field.decode? format)) [] fields
        validations := ← Datum.orElse (Datum.asList? (Validation.decode? format)) [] validations
        associations := ← Datum.orElse (Datum.asList? (Association.decode? format)) [] associations }
  | _ => none

/-- A model as data. -/
def Model.encode (m : Model) : Datum :=
  .record
    [("name", .text m.name), ("fields", .list (m.fields.map Field.encode)),
      ("validators", .list (m.validations.map Validation.encode)),
      ("associations", .list (m.associations.map Association.encode))]

end InterfaceSync
