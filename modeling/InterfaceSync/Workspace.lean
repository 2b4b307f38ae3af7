import InterfaceSync.Environment
import InterfaceSync.Event
import InterfaceSync.Files.FileTree

/-!
# The workspace

Everything that an operation can see or change: the file tree, the directory it works in, the
environment, the events reported so far and the text printed so far.  An operation is an `Action`.  It
either answers or fails with a `Fault`, and either way it leaves a workspace behind, because a failure
does not undo what was done before it.
-/

namespace InterfaceSync

/-- What operations work on.  The events stand in the order in which they were reported. -/
structure Workspace where
  files : FileTree
  directory : Location
  environment : Environment
  events : List Event
  output : String

/-- An operation on a workspace. -/
abbrev Action := EStateM Fault Workspace

namespace Action

/-- Reports an event. -/
def report (e : Event) : Action Unit :=
  modify fun w => { w with events := w.events ++ [e] }

/-- Prints a text. -/
def print (text : String) : Action Unit :=
  modify fun w => { w with output := w.output ++ text }

/-- Answers with what was computed, or fails with the cause that was found. -/
def ofExcept {α : Type} : Except Fault α → Action α
  | .ok a => pure a
  | .error fault => throw fault

/-- Asks the file tree, as seen from the working directory. -/
def look {α : Type} (question : FileTree → Location → α) : Action α :=
  return question (← get).files (← get).directory

/-- Puts another file tree in the place of the present one. -/
def setFiles (files : FileTree) : Action Unit :=
  modify fun w => { w with files := files }

/-- Reads the text of a file. -/
def readText (path : String) : Action String := do
  ofExcept ((← look fun t d => t.readText d path).mapError .io)

/-- Writes a file. -/
def write (path : String) (bytes : ByteArray) : Action Unit := do
  setFiles (← ofExcept ((← look fun t d => t.write d path bytes).mapError .io))

/-- Makes a directory and those above it that are missing. -/
def makeDirectories (path : String) : Action Unit := do
  let (made, files) ← look fun t d => t.makeDirectories d path
  setFiles files
  ofExcept (made.mapError .io)

end Action
end InterfaceSync
