import InterfaceSync.Data.Toml.Reader
import InterfaceSync.Environment.File
import InterfaceSync.Settings.Search
import InterfaceSync.Workspace

/-!
# Loading settings

Settings are loaded from a given file, or from the one that belongs to the working directory, and are
the default ones if there is none.  The environment file is read first, so that references in the
settings find what it sets.  What the command line says about a path takes the place of what the
settings say, once they have been loaded.
-/

namespace InterfaceSync

/-- What to report about filling in references, up to the first one that stands for nothing. -/
def Reference.notices (env : Environment) : List Reference → List Event
  | [] => []
  | r :: rest =>
    let name := String.ofList r.name
    match env.get? name, r.default with
    | some _, _ => notices env rest
    | none, some value => .variableDefaulted name (String.ofList value) :: notices env rest
    | none, none => [.variableMissing name]

namespace Settings

/-- The settings in the text of a settings file, references not filled in. -/
def parse (text : String) : Except Fault Settings :=
  match (Toml.read? text).bind (decode? .toml) with
  | some s => .ok s
  | none => .error .malformedSettings

/-- Sets the variables of the environment file that belongs to the working directory. -/
def loadEnvironment : Action Unit :=
  modify fun w =>
    match environmentBytes? w.files w.directory (Path.ancestors w.directory.path) with
    | some bytes => { w with environment := Environment.File.load w.environment bytes }
    | none => w

/-- Fills in the references in a path and reports which variables were not set. -/
def fillPath (path : String) : Action String := do
  let env := (← get).environment
  (Reference.notices env (Reference.all path.toList)).forM Action.report
  Action.ofExcept (substitutePath env path)

/-- Fills in the references in both paths. -/
def fillPaths (s : Settings) : Action Settings := do
  let modelsPath ← fillPath s.modelsPath
  let documentPath ← fillPath s.documentPath
  return { s with modelsPath := modelsPath, documentPath := documentPath }

/-- Reads a settings file; that it cannot be read is reported. -/
def readFile (path : String) : Action String := do
  match ← Action.look fun t directory => t.readText directory path with
  | .ok text => return text
  | .error cause =>
    Action.report (.settingsUnreadable cause)
    throw (.io cause)

/-- Reads the text of a settings file into settings; that it is malformed is reported. -/
def readSettings (text : String) : Action Settings := do
  match parse text with
  | .ok s => return s
  | .error fault =>
    Action.report .settingsMalformed
    throw fault

/-- Loads the settings from a file. -/
def loadFrom (path : String) : Action Settings := do
  Action.report (.settingsFound path)
  loadEnvironment
  let s ← fillPaths (← readSettings (← readFile path))
  Action.report .settingsLoaded
  return s

/-- Loads the settings that belong to the working directory. -/
def load : Action Settings := do
  Action.report .loadingSettings
  match ← Action.look fun t directory => find? t directory directory.path with
  | some path => loadFrom path
  | none =>
    loadEnvironment
    Action.report .settingsNotFound
    return default

/-- Paths that the command line gives in place of those in the settings. -/
structure Overrides where
  settingsPath : Option String
  documentPath : Option String
  modelsPath : Option String
  deriving DecidableEq, Repr

/-- The settings with paths from the command line. -/
def override (s : Settings) (o : Overrides) : Settings :=
  { s with
    documentPath := o.documentPath.getD s.documentPath
    modelsPath := o.modelsPath.getD s.modelsPath }

/-- Loads the settings for a command; a failure is reported. -/
def resolve (o : Overrides) : Action Settings := do
  let loaded : Action Settings :=
    match o.settingsPath with
    | some path => loadFrom path
    | none => load
  try
    return (← loaded).override o
  catch fault =>
    Action.report (.settingsFailed fault)
    throw fault

end Settings
end InterfaceSync
