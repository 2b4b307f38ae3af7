import InterfaceSync.Files.FileTree
import InterfaceSync.Settings

/-!
# Where settings are searched for

A project may be worked on from any directory inside it.  So its settings file and its environment
file are searched for from a directory upward, and the nearest one counts.  The two searches differ in
what stops them: that for the settings passes over everything that is no file, and that for the
environment gives up where the file system fails for another reason than that nothing is there.
-/

namespace InterfaceSync

namespace Settings

/-- The path of the first file of a given name in the given directories. -/
def findFile? (t : FileTree) (workingDirectory : Location) (name : String) (directories : List String) :
    Option String :=
  (directories.map (Path.join · name)).find? (t.isFile workingDirectory)

/-- The settings file that belongs to a directory. -/
def find? (t : FileTree) (workingDirectory : Location) (start : String) : Option String :=
  findFile? t workingDirectory fileName (Path.ancestors start)

/-- The name of an environment file. -/
def environmentFileName : String := ".env"

/-- The bytes of the first environment file in the given directories. -/
def environmentBytes? (t : FileTree) (workingDirectory : Location) : List String → Option ByteArray
  | [] => none
  | directory :: rest =>
    match t.stat workingDirectory (Path.join directory environmentFileName) with
    | .ok (.file bytes _) => some bytes
    | .ok .directory | .error .notFound => environmentBytes? t workingDirectory rest
    | .error _ => none

end Settings
end InterfaceSync
