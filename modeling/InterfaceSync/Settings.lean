import InterfaceSync.Data.Format
import InterfaceSync.Fault
import InterfaceSync.Settings.Reference

/-!
# Settings

Three settings: where the manifest of models is, where the definitions document is, and whether new
interfaces are exported.  Each has a value for when a settings file leaves it out.  The two paths may
refer to environment variables.
-/

namespace InterfaceSync

/-- The settings of a project. -/
structure Settings where
  modelsPath : String
  documentPath : String
  exported : Bool
  deriving DecidableEq, Repr

namespace Settings

/-- The name of a settings file. -/
def fileName : String := "modelsync.toml"

/-- Where the manifest is if nothing is said about it. -/
def defaultModelsPath : String := "config/models.toml"

/-- Where the document is if nothing is said about it. -/
def defaultDocumentPath : String := "app/javascript/types/models.d.ts"

/-- The settings when nothing is said about them. -/
def default : Settings := ⟨defaultModelsPath, defaultDocumentPath, false⟩

/-- Reads the part of a settings file about the document. -/
def decodeDocumentPart? (format : DataFormat) (d : Datum) : Option (String × Bool) := do
  match ← d.parts? format [["output_path"], ["export_interfaces"]] with
  | [path, exported] =>
    some
      (← Datum.orElse Datum.asText? defaultDocumentPath path,
        ← Datum.orElse Datum.asBool? false exported)
  | _ => none

/-- Reads the part of a settings file about the manifest. -/
def decodeGeneralPart? (format : DataFormat) (d : Datum) : Option String := do
  match ← d.parts? format [["models_path"]] with
  | [path] => Datum.orElse Datum.asText? defaultModelsPath path
  | _ => none

/-- Reads settings. -/
def decode? (format : DataFormat) (d : Datum) : Option Settings := do
  match ← d.parts? format [["general"], ["typesync"]] with
  | [general, document] =>
    let modelsPath ← Datum.orElse (decodeGeneralPart? format) defaultModelsPath general
    let (documentPath, exported) ←
      Datum.orElse (decodeDocumentPart? format) (defaultDocumentPath, false) document
    some ⟨modelsPath, documentPath, exported⟩
  | _ => none

/-- The part about the document as data. -/
def encodeDocumentPart (s : Settings) : Datum :=
  .record [("output_path", .text s.documentPath), ("export_interfaces", .bool s.exported)]

/-- Settings as data. -/
def encode (s : Settings) : Datum :=
  .record
    [("general", .record [("models_path", .text s.modelsPath)]), ("typesync", s.encodeDocumentPart)]

/-- A path with its references to environment variables filled in. -/
def substitutePath (env : Environment) (path : String) : Except Fault String :=
  match Reference.substitute env path.toList with
  | .ok text => .ok (String.ofList text)
  | .error r => .error (.variableNotSet (String.ofList r.name))

/-- The settings with the references in both paths filled in, those in the path of the manifest
first. -/
def substitute (env : Environment) (s : Settings) : Except Fault Settings :=
  match substitutePath env s.modelsPath with
  | .error fault => .error fault
  | .ok modelsPath =>
    match substitutePath env s.documentPath with
    | .error fault => .error fault
    | .ok documentPath => .ok { s with modelsPath := modelsPath, documentPath := documentPath }

end Settings
end InterfaceSync
