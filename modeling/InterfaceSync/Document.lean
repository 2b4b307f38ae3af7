import InterfaceSync.Workspace

/-!
# The definitions document

The document is read whole and written whole.  It is written to a temporary file beside it, which is
then moved over it, so a write that fails leaves the document as it was.  A document keeps its
permission bits, and a new one gets the bits of a new file.

A document that is not there is not an error: it has no text, and appending to it makes it.
-/

namespace InterfaceSync

/-- The document at a path. -/
structure Document where
  path : String
  deriving DecidableEq, Repr

namespace Document

/-- The directory that the document is in. -/
def directory (doc : Document) : String :=
  match Path.parent? doc.path with
  | some parent => if parent.isEmpty then "." else parent
  | none => "."

/-- The permission bits that the document has once it is written. -/
def bits (doc : Document) (t : FileTree) (workingDirectory : Location) : Except FileError Nat :=
  match t.stat workingDirectory doc.path with
  | .ok (.file _ mode) => .ok mode
  | .ok .directory => .ok FileTree.directoryMode
  | .error .notFound => .ok FileTree.newFileMode
  | .error e => .error e

/-- Moves a file with the given content over the document.  The file is first put into a directory
under a name that is free there, and is removed again if it cannot be moved. -/
def moveInto (doc : Document) (t : FileTree) (workingDirectory directory : Location)
    (content : FileEntry) : Except Fault Unit × FileTree :=
  let temporary := directory ++ [t.freeName directory]
  let filled := t.insert temporary content
  match filled.rename workingDirectory temporary doc.path with
  | .ok t => (.ok (), t)
  | .error e => (.error (.persist e), filled.erase temporary)

/-- The length of the name of a temporary file: a dot, `tmp` and six more characters. -/
def temporaryNameLength : Nat := 10

/-- The length of the path of a temporary file in the directory, from the root on. -/
def temporaryPathLength (doc : Document) (workingDirectory : Location) : Nat :=
  let directory :=
    if Path.isAbsolute doc.directory then doc.directory
    else Path.join workingDirectory.path doc.directory
  (Path.join directory "").utf8ByteSize + temporaryNameLength

/-- Where the temporary file is made: in the directory, unless its path would be too long. -/
def temporaryPlace (doc : Document) (t : FileTree) (workingDirectory : Location) :
    Except FileError Location :=
  if FileTree.pathLimit ≤ doc.temporaryPathLength workingDirectory then .error .nameTooLong
  else t.locate workingDirectory doc.directory

/-- Puts bytes into the document, whatever was in it.  The directory is made first if it is missing,
and stays even if the document cannot be written. -/
def store (doc : Document) (t : FileTree) (workingDirectory : Location) (bytes : ByteArray) :
    Except Fault Unit × FileTree :=
  match t.makeDirectories workingDirectory doc.directory with
  | (.error e, t) => (.error (.io e), t)
  | (.ok (), t) =>
    match doc.temporaryPlace t workingDirectory, doc.bits t workingDirectory with
    | .ok directory, .ok mode => doc.moveInto t workingDirectory directory (.file bytes mode)
    | .error e, _ => (.error (.io e), t)
    | _, .error e => (.error (.io e), t)

/-- What is in the document, in bytes; nothing if it is not there. -/
def bytes (doc : Document) (t : FileTree) (workingDirectory : Location) :
    Except Fault ByteArray :=
  match t.read workingDirectory doc.path with
  | .ok bytes => .ok bytes
  | .error .notFound => .ok .empty
  | .error e => .error (.io e)

/-- Puts a text behind what is in the document. -/
def extend (doc : Document) (t : FileTree) (workingDirectory : Location) (text : String) :
    Except Fault Unit × FileTree :=
  match doc.bytes t workingDirectory with
  | .ok bytes => doc.store t workingDirectory (bytes ++ text.toUTF8)
  | .error fault => (.error fault, t)

/-- The text of the document, if it is there. -/
def text? (doc : Document) (t : FileTree) (workingDirectory : Location) :
    Except Fault (Option String) :=
  match t.readText workingDirectory doc.path with
  | .ok text => .ok (some text)
  | .error .notFound => .ok none
  | .error e => .error (.io e)

/-- Whether the document is there. -/
def isThere (doc : Document) : Action Bool :=
  Action.look fun t directory => t.isFile directory doc.path

/-- Reads the text of the document, if it is there. -/
def read (doc : Document) : Action (Option String) := do
  Action.ofExcept (← Action.look doc.text?)

/-- Appends a text to the document. -/
def append (doc : Document) (text : String) : Action Unit := do
  let (done, files) ← Action.look fun t directory => doc.extend t directory text
  Action.setFiles files
  Action.ofExcept done

/-- Replaces the text of the document. -/
def replace (doc : Document) (text : String) : Action Unit := do
  let (done, files) ← Action.look fun t directory => doc.store t directory text.toUTF8
  Action.setFiles files
  Action.ofExcept done

end Document
end InterfaceSync
