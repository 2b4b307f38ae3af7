import InterfaceSync.Catalogue
import InterfaceSync.Data.Json.Reader
import InterfaceSync.Data.Toml.Reader
import InterfaceSync.Schema.Decode
import InterfaceSync.Workspace

/-!
# Manifests

A manifest lists the models of a project.  Reading one takes three steps: the text is read into data,
the data into a list of models, and the models are entered into a catalogue one after the other.  A
model whose name is blank is refused, and so is one that is in the catalogue already.
-/

namespace InterfaceSync.Manifest

/-- The models that a manifest lists; a manifest need not list any. -/
def models? (format : DataFormat) (d : Datum) : Option (List Model) := do
  match ← d.parts? format [["models"]] with
  | [models] => Datum.orElse (Datum.asList? (Model.decode? format)) [] models
  | _ => none

/-- Whether a manifest at a path is written in JSON; every other one is written in TOML. -/
def isJson (path : String) : Bool :=
  (Path.extension? path).any fun e => e.toList.map Char.toLower == "json".toList

/-- The models in the text of a manifest. -/
def read? (path text : String) : Option (List Model) :=
  if isJson path then (Json.read? text).bind (models? .json)
  else (Toml.read? text).bind (models? .toml)

/-- Whether a name consists of white space only. -/
def isBlankName (name : String) : Bool := (Text.trim name.toList).isEmpty

/-- Enters models into a catalogue in their order; the failure is about the first one that cannot be
entered. -/
def enterAll (c : Catalogue) : List Model → Except ManifestDefect Catalogue
  | [] => .ok c
  | m :: rest =>
    if isBlankName m.name then .error .emptyName
    else
      match c.register m with
      | .ok c => enterAll c rest
      | .error _ => .error (.repeatedModel m.name)

/-- The catalogue of the models in the text of a manifest. -/
def catalogue (path text : String) : Except Fault Catalogue :=
  match read? path text with
  | some models => (enterAll .empty models).mapError (.manifest path)
  | none => .error (.manifest path .malformed)

/-- Reads the manifest at a path. -/
def load (path : String) : Action Catalogue := do
  Action.report (.loadingManifest path)
  Action.ofExcept (catalogue path (← Action.readText path))

end InterfaceSync.Manifest
