import InterfaceSync.Fault
import InterfaceSync.Settings
import InterfaceSync.Text.Quoted

/-!
# Events

What the operations report while they go on.  Every event has a level and a message.  The messages
name the program and its files the way its user knows them.
-/

namespace InterfaceSync

/-- How grave an event is. -/
inductive Level where
  | error
  | warn
  | info
  deriving DecidableEq, Repr

/-- How a level is written. -/
def Level.name : Level → String
  | error => "ERROR"
  | warn => "WARN"
  | info => "INFO"

/-- What became of the interface of a model that was reconciled with its validations. -/
inductive Outcome where
  | missingDocument
  | noMatchingBlock
  | unchanged
  | updated (changedLines : Nat)
  deriving DecidableEq, Repr

/-- Something worth reporting. -/
inductive Event where
  | loadingSettings
  | settingsNotFound
  | settingsFound (path : String)
  | settingsUnreadable (cause : FileError)
  | settingsMalformed
  | variableDefaulted (name value : String)
  | variableMissing (name : String)
  | settingsLoaded
  | settingsFailed (fault : Fault)
  | loadingManifest (path : String)
  | modelsFound (count : Nat)
  | manifestFailed (fault : Fault)
  | generating
  | generated
  | migrating
  | emptyMigration (label : String)
  | reconciled (outcome : Outcome)
  | unbalancedBlock
  | interfaceWritten (name path : String)
  | migrationWritten (label path : String)
  | synced (name : String) (outcome : Outcome)
  | settingsInTheWay
  | created (path : String)
  | initialised
  | nextSteps
  | describeModels
  | runModel
  | runValidations
  deriving DecidableEq, Repr

namespace Event

/-- The level of an event. -/
def level : Event → Level
  | settingsUnreadable _ | settingsMalformed | variableMissing _ | settingsFailed _
  | settingsInTheWay => .error
  | settingsNotFound | variableDefaulted _ _ | manifestFailed _ | emptyMigration _
  | unbalancedBlock => .warn
  | _ => .info

/-- The message about a reconciliation. -/
def reconciledMessage : Outcome → String
  | .missingDocument => "No definitions document yet, nothing to reconcile"
  | .noMatchingBlock => "No interface found for model, nothing to reconcile"
  | .unchanged => "Interface already up to date"
  | .updated _ => "Interface reconciled"

/-- The message about a reconciliation that was asked for by the name of the model. -/
def syncedMessage (name : String) : Outcome → String
  | .missingDocument => name ++ ": no definitions document yet, skipped"
  | .noMatchingBlock => name ++ ": no interface in the definitions document, skipped"
  | .unchanged => name ++ ": already up to date"
  | .updated n => name ++ ": updated " ++ toString n ++ " field line(s)"

/-- The message of an event. -/
def message : Event → String
  | loadingSettings => "Loading Modelsync configuration"
  | settingsNotFound => Settings.fileName ++ " not found, using default configuration"
  | settingsFound path => "Found configuration file at: " ++ Text.quoted path
  | settingsUnreadable cause => "Failed to read configuration file: " ++ cause.message
  | settingsMalformed => "Failed to parse TOML configuration: " ++ malformedText
  | variableDefaulted name value =>
    "Environment variable " ++ name ++ " not set, using default: " ++ value
  | variableMissing name =>
    "Environment variable " ++ name ++ " not set and no default provided"
  | settingsLoaded => "Configuration loaded successfully"
  | settingsFailed fault => "Failed to load configuration: " ++ fault.message
  | loadingManifest path => "Loading model manifest from " ++ Text.quoted path
  | modelsFound count => "Found " ++ toString count ++ " models"
  | manifestFailed fault => "Could not load model manifest: " ++ fault.message
  | generating => "Generating interface"
  | generated => "Interface appended to definitions document"
  | migrating => "Appending migration fields"
  | emptyMigration label => "Migration " ++ label ++ " adds no attributes"
  | reconciled outcome => reconciledMessage outcome
  | unbalancedBlock =>
    "Interface block braces never balance; treated the rest of the document as part of the block"
  | interfaceWritten name path => "Interface for " ++ name ++ " written to " ++ path
  | migrationWritten label path =>
    "Migration " ++ label ++ " declarations appended to " ++ path
  | synced name outcome => syncedMessage name outcome
  | settingsInTheWay => Settings.fileName ++ " already exists. Use --force to overwrite."
  | created path => "Created " ++ path
  | initialised => "Modelsync initialized successfully!"
  | nextSteps => "Next steps:"
  | describeModels => "  1. Describe your models in " ++ Settings.defaultModelsPath
  | runModel => "  2. Run 'modelsync model <name>' after creating a model"
  | runValidations => "  3. Run 'modelsync validations <name>' after changing its validations"

/-- An event on one line of a log. -/
def line (e : Event) : String := e.level.name ++ " " ++ e.message

end Event
end InterfaceSync
