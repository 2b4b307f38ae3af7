import InterfaceSync.Attribute
import InterfaceSync.Catalogue
import InterfaceSync.Declaration
import InterfaceSync.Document
import InterfaceSync.Reconcile
import InterfaceSync.Schema.Required

/-!
# Keeping the document in step with the models

Three operations on a definitions document.  The interface of a new model and the fields that a
migration adds are appended to it, and the question marks in the interface of a model are settled
again once its validations have changed.

Models are looked up in a catalogue, if there is one.  A model that is not found is a failure before
the document is looked at.
-/

namespace InterfaceSync

/-- A document, the models that belong to it if they are known, and whether new interfaces are
exported. -/
structure Syncer where
  document : Document
  catalogue : Option Catalogue
  exported : Bool

namespace Syncer

/-- The model that a name stands for. -/
def model (s : Syncer) (name : String) : Except Fault Model :=
  match s.catalogue with
  | some c => c.get name
  | none => .error .noModelSource

/-- The text of the interface of a new model. -/
def interfaceText (s : Syncer) (name : String) (fields : List Field) : String :=
  Definitions.interfaceText name (Declaration.ofFields fields) s.exported

/-- Appends the interface of a model with the given fields, and answers with its text. -/
def generate (s : Syncer) (name : String) (fields : List Field) : Action String := do
  Action.report .generating
  let text := s.interfaceText name fields
  s.document.append text
  Action.report .generated
  return text

/-- Appends the interface of a model that is known. -/
def generateKnown (s : Syncer) (name : String) : Action String := do
  let m ← Action.ofExcept (s.model name)
  s.generate m.name m.fields

/-- Appends the fields that a migration adds, and answers with their text. -/
def migrate (s : Syncer) (label : String) (fields : List Field) : Action String := do
  Action.report .migrating
  let text := Definitions.migrationText label fields
  s.document.append text
  return text

/-- What becomes of a document that was read. -/
def outcome (text : String) (r : Reconcile.Report) : Outcome :=
  if !r.blockFound then .noMatchingBlock
  else if String.ofList r.text = text then .unchanged
  else .updated r.changedLines

/-- Settles the question marks in the text of the document. -/
def settle (s : Syncer) (m : Model) (text : String) : Action Outcome := do
  let r := Reconcile.run m.name m.required text.toList
  if r.unterminated then Action.report .unbalancedBlock
  let result := outcome text r
  if let .updated _ := result then s.document.replace (String.ofList r.text)
  return result

/-- Settles the question marks in the interface of a model that is known. -/
def sync (s : Syncer) (name : String) : Action Outcome := do
  let m ← Action.ofExcept (s.model name)
  let result ←
    match ← s.document.read with
    | some text => s.settle m text
    | none => pure .missingDocument
  Action.report (.reconciled result)
  return result

end Syncer
end InterfaceSync
