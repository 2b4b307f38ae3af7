import InterfaceSync.Commands.Info
import InterfaceSync.Commands.Init
import InterfaceSync.Settings.Load
import InterfaceSync.Syncer

/-!
# The commands

Each command but `init` loads the settings first and then works with the document and the manifest that
they name.
-/

namespace InterfaceSync.Commands

/-- The document that the settings name. -/
def document (s : Settings) : Document := ⟨s.documentPath⟩

/-- The models in the manifest that the settings name. -/
def catalogue (s : Settings) : Action Catalogue := do
  let c ← Manifest.load s.modelsPath
  Action.report (.modelsFound c.size)
  return c

/-- A syncer for the document that the settings name. -/
def syncer (s : Settings) (c : Option Catalogue) : Syncer := ⟨document s, c, s.exported⟩

/-- Appends the interface of a model, with the fields that are given or, if none are, with those that
the manifest lists. -/
def model (s : Settings) (name : String) (attributes : List String) : Action Unit := do
  if attributes.isEmpty then
    let c ← catalogue s
    discard <| (syncer s (some c)).generateKnown name
  else
    let fields ← Action.ofExcept (Attribute.readAll attributes)
    discard <| (syncer s none).generate name fields
  Action.report (.interfaceWritten name s.documentPath)

/-- Appends the fields that a migration adds. -/
def migration (s : Settings) (label : String) (attributes : List String) : Action Unit := do
  let fields ← Action.ofExcept (Attribute.readAll attributes)
  if fields.isEmpty then Action.report (.emptyMigration label)
  discard <| (syncer s none).migrate label fields
  Action.report (.migrationWritten label s.documentPath)

/-- Settles the question marks in the interfaces of models, one model after the other. -/
def syncAll (s : Syncer) : List String → Action Unit
  | [] => return ()
  | name :: rest => do
    let outcome ← s.sync name
    Action.report (.synced name outcome)
    syncAll s rest

/-- Settles the question marks in the interfaces of models that the manifest lists. -/
def validations (s : Settings) (names : List String) : Action Unit := do
  let c ← catalogue s
  syncAll (syncer s (some c)) names

/-- The models in the manifest, or none if it cannot be loaded. -/
def catalogueOrNone (s : Settings) : Action Catalogue := do
  try catalogue s
  catch fault =>
    Action.report (.manifestFailed fault)
    return .empty

/-- Shows the settings and the models. -/
def info (s : Settings) (format : InfoFormat) : Action Unit := do
  let c ← catalogueOrNone s
  let overview : Info.Overview := ⟨s, ← (document s).isThere, c.models⟩
  Action.print (overview.render format)

/-- The paths that an invocation gives. -/
def overrides (i : Invocation) : Settings.Overrides :=
  ⟨i.settingsPath, i.documentPath, i.modelsPath⟩

/-- Carries out an invocation. -/
def run (i : Invocation) : Action Unit := do
  match i.command with
  | .init force minimal => Init.run force minimal
  | .model name attributes => model (← Settings.resolve (overrides i)) name attributes
  | .migration label attributes => migration (← Settings.resolve (overrides i)) label attributes
  | .validations names => validations (← Settings.resolve (overrides i)) names
  | .info format => info (← Settings.resolve (overrides i)) format

/-- Whether an event is shown to the user. -/
def isShown (quiet : Bool) (e : Event) : Bool := !quiet || e.level == .error

end InterfaceSync.Commands
