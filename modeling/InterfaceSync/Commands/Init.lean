import InterfaceSync.Settings
import InterfaceSync.Workspace

/-!
# Starting a project

A new project needs a settings file and a manifest.  The settings file is written if there is none, or
if it may be overwritten; the manifest is written only if there is none.  The settings that are written
are the default ones, in full with comments or as short as possible.
-/

namespace InterfaceSync.Commands.Init

/-- The text that consists of the given lines. -/
def ofLines (lines : List String) : String := String.join (lines.map (· ++ "\n"))

/-- A line that gives a text to a key. -/
def assignment (key value : String) : String := key ++ " = \"" ++ value ++ "\""

/-- A short settings file. -/
def minimalSettings : String :=
  ofLines ["[typesync]", assignment "output_path" Settings.defaultDocumentPath]

/-- A settings file that shows every setting. -/
def fullSettings : String :=
  ofLines
    ["# Modelsync Configuration",
      "",
      "[general]",
      "# Model manifest (TOML, or JSON when the extension is .json)",
      assignment "models_path" Settings.defaultModelsPath,
      "",
      "[typesync]",
      "# Definitions document holding the generated interfaces.",
      "# Supports $\x7bVAR\x7d and $\x7bVAR:-default\x7d substitution.",
      assignment "output_path" Settings.defaultDocumentPath,
      "",
      "# Declare newly generated interfaces with `export`",
      "export_interfaces = false"]

/-- A manifest without models and with an example in comments. -/
def emptyManifest : String :=
  ofLines
    ["# Model manifest read by `modelsync model` and `modelsync validations`.",
      "#",
      "# [[models]]",
      "# name = \"post\"",
      "# fields = [",
      "#   \x7b name = \"title\", kind = \"string\" \x7d,",
      "#   \x7b name = \"author\", kind = \"references\" \x7d,",
      "# ]",
      "# validators = [\x7b kind = \"presence\", attributes = [\"title\"] \x7d]",
      "# associations = [\x7b name = \"author\", kind = \"belongs_to\", optional = false \x7d]"]

/-- The directory of the manifest. -/
def manifestDirectory : String := "config"

/-- Whether anything stands at a path. -/
def isTaken (path : String) : Action Bool :=
  Action.look fun t directory => t.isPresent directory path

/-- Writes a file and reports it. -/
def create (path text : String) : Action Unit := do
  Action.write path text.toUTF8
  Action.report (.created path)

/-- Writes the manifest unless something stands in its place. -/
def createManifest : Action Unit := do
  unless ← isTaken Settings.defaultModelsPath do
    Action.makeDirectories manifestDirectory
    create Settings.defaultModelsPath emptyManifest

/-- Starts a project in the working directory; `force` says that a settings file may be overwritten. -/
def run (force minimal : Bool) : Action Unit := do
  if (← isTaken Settings.fileName) && !force then
    Action.report .settingsInTheWay
  else
    create Settings.fileName (if minimal then minimalSettings else fullSettings)
    createManifest
    [Event.initialised, .nextSteps, .describeModels, .runModel, .runValidations].forM Action.report

end InterfaceSync.Commands.Init
