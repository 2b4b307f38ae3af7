import InterfaceSync.CommandLine.Invocation
import InterfaceSync.Data.Json.Writer
import InterfaceSync.Document
import InterfaceSync.Manifest
import InterfaceSync.Schema.Required

/-!
# Showing the settings and the models

The same facts in two formats: as lines of text for a reader, and as data for a program.  A manifest
that cannot be loaded is reported and shown like one without models.
-/

namespace InterfaceSync.Commands.Info

/-- What is shown: the settings, whether the document is there, and the models. -/
structure Overview where
  settings : Settings
  documentIsThere : Bool
  models : List Model

namespace Overview

/-- The lines about a model: its name, its interface, its fields and required fields, and its
associations. -/
def modelText (m : Model) : String :=
  "  " ++ m.name ++ " -> " ++ m.interfaceName ++ " (" ++ toString m.fields.length
    ++ " fields, required: [" ++ String.intercalate ", " m.requiredInOrder ++ "])\n"
    ++ String.join (m.associations.map fun a => "      " ++ a.kind.spelling ++ " " ++ a.name ++ "\n")

/-- An overview for a reader. -/
def text (o : Overview) : String :=
  "\n=== Configuration ===\n\n"
    ++ "Models Path:       " ++ o.settings.modelsPath ++ "\n"
    ++ "Output Path:       " ++ o.settings.documentPath
    ++ (if o.documentIsThere then " (exists)\n" else " (not created yet)\n")
    ++ "Export Interfaces: " ++ (if o.settings.exported then "enabled\n" else "disabled\n")
    ++ "\n=== Models ===\n\n"
    ++ (if o.models.isEmpty then "  (none)\n" else "")
    ++ String.join (o.models.map modelText)

/-- A model as data. -/
def modelData (m : Model) : Datum :=
  .record
    [("name", .text m.name), ("interface", .text m.interfaceName),
      ("fields", .list (m.fields.map Field.encode)), ("required", Datum.ofTexts m.requiredInOrder)]

/-- An overview as data, with the keys in order. -/
def data (o : Overview) : Datum :=
  Datum.sortKeys
    (.record
      [("config", o.settings.encode), ("document_exists", .bool o.documentIsThere),
        ("models", .list (o.models.map modelData))])

/-- An overview in a format. -/
def render (o : Overview) : InfoFormat → String
  | .pretty => o.text
  | .json => Json.indented o.data ++ "\n"

end Overview
end InterfaceSync.Commands.Info
