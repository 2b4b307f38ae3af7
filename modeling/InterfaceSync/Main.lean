import InterfaceSync.CommandLine.Reading
import InterfaceSync.Commands

/-!
# The program

The outermost layer.  It looks at the places in the file system that a command may look at, carries the
command out on what it saw, and then writes down what the command changed.  All decisions are made in
the library; here is only what touches the world.

A command looks at few places: the files that are searched for upward from the working directory, and
the paths that the settings name.  So the settings are resolved first, and then what stands along their
paths is looked at as well.
-/

namespace InterfaceSync.Program

/-- What stands at a place in the file system. -/
def look (path : String) : IO (Option FileEntry) := do
  try
    let bytes ← IO.FS.readBinFile path
    return some (.file bytes FileTree.newFileMode)
  catch
    | .noFileOrDirectory .. => return none
    | _ => return some .directory

/-- Looks at every place along a path, as far as there are directories. -/
def lookAlong (t : FileTree) (workingDirectory : Location) (path : String) : IO FileTree := do
  let mut t := t
  let mut place : Location := if Path.isAbsolute path then [] else workingDirectory
  for name in Path.components path do
    if t.get? place = some .directory then
      place :=
        if name = "." then place else if name = ".." then place.dropLast else place ++ [name]
      if (t.get? place).isNone then
        if let some e ← look (Location.path place) then t := t.insert place e
  return t

/-- Looks along several paths. -/
def lookAlongAll (t : FileTree) (workingDirectory : Location) (paths : List String) : IO FileTree :=
  paths.foldlM (fun t path => lookAlong t workingDirectory path) t

/-- The environment of the process, as the system shows it. -/
def environment : IO Environment := do
  let bytes ← try IO.FS.readBinFile "/proc/self/environ" catch _ => pure .empty
  let lines := ((String.fromUTF8? bytes).getD "").splitOn "\x00"
  return lines.foldl
    (fun env line =>
      match line.splitOn "=" with
      | name :: value => env.set name (String.intercalate "=" value)
      | [] => env)
    .empty

/-- The files that are searched for upward from the working directory. -/
def searchedPaths (directory : Location) : List String :=
  (Path.ancestors directory.path).flatMap fun up =>
    [Path.join up Settings.fileName, Path.join up Settings.environmentFileName]

/-- The paths that settings name. -/
def namedPaths (s : Settings) : List String := [s.modelsPath, s.documentPath]

/-- The workspace in which an invocation is carried out. -/
def workspace (env : Environment) (i : Invocation) : IO Workspace := do
  let directory : Location := Path.components (toString (← IO.FS.realPath "."))
  let overrides := Commands.overrides i
  let paths := searchedPaths directory ++ overrides.settingsPath.toList ++ [Settings.defaultModelsPath]
  let files ← lookAlongAll .empty directory (directory.path :: paths)
  let w : Workspace := ⟨files, directory, env, [], ""⟩
  match EStateM.run (Settings.resolve overrides) w with
  | .ok s _ => return { w with files := ← lookAlongAll files directory (namedPaths s) }
  | .error _ _ => return w

/-- Writes down what is new or changed in a tree; directories come before what is in them. -/
def writeChanges (before after : FileTree) : IO Unit := do
  let changed := after.entries.filter fun e => before.get? e.1 != some e.2
  for (location, e) in changed.mergeSort fun a b => a.1.length ≤ b.1.length do
    match e with
    | .directory => IO.FS.createDirAll (Location.path location)
    | .file bytes _ => IO.FS.writeBinFile (Location.path location) bytes

/-- Carries out an invocation and answers with the exit code. -/
def carryOut (env : Environment) (i : Invocation) : IO UInt32 := do
  let before ← workspace env i
  let (fault?, after) :=
    match EStateM.run (Commands.run i) before with
    | .ok _ after => (none, after)
    | .error fault after => (some fault, after)
  writeChanges before.files after.files
  for e in after.events.filter (Commands.isShown i.quiet) do
    IO.eprintln e.line
  IO.print after.output
  match fault? with
  | none => return 0
  | some fault =>
    IO.eprintln (Level.error.name ++ " " ++ fault.message)
    return 1

/-- How the program is used, in short. -/
def usage : String :=
  "Usage: " ++ CommandLine.programName ++ " [OPTIONS] <"
    ++ String.intercalate "|" (CommandLine.Verb.all.map CommandLine.Verb.name) ++ "> ..."

/-- Answers a command line that cannot be carried out. -/
def refuse (r : Refusal) : IO UInt32 := do
  match r with
  | .versionAsked program => IO.print (Refusal.versionText program)
  | .helpAsked => IO.println usage
  | _ => IO.eprintln usage
  return UInt32.ofNat r.exitCode

end InterfaceSync.Program

/-- Reads the command line and carries it out. -/
def main (arguments : List String) : IO UInt32 := do
  let env ← InterfaceSync.Program.environment
  match InterfaceSync.CommandLine.parse env arguments with
  | .ok i => InterfaceSync.Program.carryOut env i
  | .error r => InterfaceSync.Program.refuse r
