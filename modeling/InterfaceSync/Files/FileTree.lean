import InterfaceSync.Fault
import InterfaceSync.Files.Path

/-!
# The file tree

Regular files with their bytes and permission bits, and directories.  A file or directory has a
location, the list of names that lead to it from the root.  A path is turned into a location by
walking along its components, and the walk fails where a directory is missing or something else
stands in its place.

Nothing else is modelled: there are no links, every directory may be written to, and nobody else
changes the tree.
-/

namespace InterfaceSync

/-- The names that lead from the root to a place in the tree. -/
abbrev Location := List String

/-- The path from the root to a location. -/
def Location.path (location : Location) : String := "/" ++ String.intercalate "/" location

/-- What stands at a location. -/
inductive FileEntry where
  | file (bytes : ByteArray) (mode : Nat)
  | directory

/-- Files are compared byte by byte. -/
instance : DecidableEq FileEntry
  | .directory, .directory => isTrue rfl
  | .directory, .file _ _ => isFalse nofun
  | .file _ _, .directory => isFalse nofun
  | .file bytes mode, .file other otherMode =>
    if h : bytes.data = other.data ∧ mode = otherMode then
      isTrue (by rw [ByteArray.ext h.1, h.2])
    else
      isFalse fun e => h (by cases e; exact ⟨rfl, rfl⟩)

/-- The files and directories below the root. -/
structure FileTree where
  entries : List (Location × FileEntry)

namespace FileTree

/-- The tree in which there is nothing but the root. -/
def empty : FileTree := ⟨[]⟩

/-- What stands at a location; the root is always a directory. -/
def get? (t : FileTree) (location : Location) : Option FileEntry :=
  if location = [] then some .directory else t.entries.lookup location

/-- The tree without what stands at a location. -/
def erase (t : FileTree) (location : Location) : FileTree :=
  ⟨t.entries.filter fun e => e.1 != location⟩

/-- The tree with something put at a location. -/
def insert (t : FileTree) (location : Location) (e : FileEntry) : FileTree :=
  ⟨(location, e) :: (t.erase location).entries⟩

theorem lookup_filter_ne {entries : List (Location × FileEntry)} {a b : Location} :
    (entries.filter fun e => e.1 != a).lookup b = if b = a then none else entries.lookup b := by
  induction entries with
  | nil => simp
  | cons e rest ih =>
    obtain ⟨l, x⟩ := e
    by_cases hl : l = a
    · subst hl
      by_cases hb : b = l
      · simpa [hb] using ih
      · have hne : (b == l) = false := by simpa using hb
        simpa [hb, List.lookup_cons, hne] using ih
    · by_cases hb : b = l
      · subst hb
        simp [hl]
      · have hne : (b == l) = false := by simpa using hb
        simp only [List.lookup_cons, hne, bne_iff_ne, ne_eq, hl, not_false_eq_true,
          List.filter_cons_of_pos, ih]

theorem get?_erase {t : FileTree} {a b : Location} (h : a ≠ []) :
    (t.erase a).get? b = if b = a then none else t.get? b := by
  unfold get? erase
  by_cases hb : b = []
  · subst hb
    simp [Ne.symm h]
  · simp only [hb, if_false, lookup_filter_ne]

theorem get?_insert {t : FileTree} {a b : Location} {e : FileEntry} (h : a ≠ []) :
    (t.insert a e).get? b = if b = a then some e else t.get? b := by
  unfold insert
  by_cases hb : b = a
  · subst hb
    simp [get?, h]
  · have := get?_erase (t := t) (b := b) h
    simp only [hb, if_false] at this ⊢
    rw [← this]
    by_cases hn : b = []
    · simp [get?, hn]
    · have hne : (b == a) = false := by simpa using hb
      simp [get?, hn, List.lookup_cons, hne]

/-- Goes from a directory to one of its names.  A dot stays, two dots go up, and nothing is above the
root. -/
def enter (t : FileTree) (directory : Location) (name : String) : Except FileError Location :=
  match t.get? directory with
  | none => .error .notFound
  | some (.file _ _) => .error .notADirectory
  | some .directory =>
    if name = "." then .ok directory
    else if name = ".." then .ok directory.dropLast
    else if 255 < name.utf8ByteSize then .error .nameTooLong
    else .ok (directory ++ [name])

/-- Goes along several names. -/
def walk (t : FileTree) (start : Location) : List String → Except FileError Location
  | [] => .ok start
  | name :: rest =>
    match t.enter start name with
    | .ok next => t.walk next rest
    | .error e => .error e

/-- Paths that have this many bytes or more are too long. -/
def pathLimit : Nat := 4096

/-- The location of a path, seen from a working directory.  Something may stand there or not, but if a
file does, the path must not end with a slash. -/
def locate (t : FileTree) (workingDirectory : Location) (path : String) :
    Except FileError Location :=
  if path.isEmpty then .error .notFound
  else if path.toList.contains '\x00' then .error .nulInPath
  else if pathLimit ≤ path.utf8ByteSize then .error .nameTooLong
  else
    match t.walk (if Path.isAbsolute path then [] else workingDirectory) (Path.components path) with
    | .error e => .error e
    | .ok location =>
      match t.get? location with
      | some (.file _ _) =>
        if Path.hasTrailingSlash path then .error .notADirectory else .ok location
      | _ => .ok location

/-- What stands at a path. -/
def stat (t : FileTree) (workingDirectory : Location) (path : String) :
    Except FileError FileEntry :=
  match t.locate workingDirectory path with
  | .error e => .error e
  | .ok location =>
    match t.get? location with
    | some e => .ok e
    | none => .error .notFound

/-- Whether anything stands at a path. -/
def isPresent (t : FileTree) (workingDirectory : Location) (path : String) : Bool :=
  (t.stat workingDirectory path).isOk

/-- Whether a regular file stands at a path. -/
def isFile (t : FileTree) (workingDirectory : Location) (path : String) : Bool :=
  match t.stat workingDirectory path with
  | .ok (.file _ _) => true
  | _ => false

/-- Whether a directory stands at a path. -/
def isDirectory (t : FileTree) (workingDirectory : Location) (path : String) : Bool :=
  match t.stat workingDirectory path with
  | .ok .directory => true
  | _ => false

/-- The bytes of the file at a path. -/
def read (t : FileTree) (workingDirectory : Location) (path : String) :
    Except FileError ByteArray :=
  match t.stat workingDirectory path with
  | .ok (.file bytes _) => .ok bytes
  | .ok .directory => .error .isADirectory
  | .error e => .error e

/-- The text of the file at a path; bytes that are no text are a failure. -/
def readText (t : FileTree) (workingDirectory : Location) (path : String) :
    Except FileError String :=
  match t.read workingDirectory path with
  | .error e => .error e
  | .ok bytes =>
    match String.fromUTF8? bytes with
    | some text => .ok text
    | none => .error .notText

/-- Makes one directory. -/
def makeDirectory (t : FileTree) (workingDirectory : Location) (path : String) :
    Except FileError FileTree :=
  match t.locate workingDirectory path with
  | .error e => .error e
  | .ok location =>
    match t.get? location with
    | some _ => .error .alreadyExists
    | none => .ok (t.insert location .directory)

/-- Makes the first of the given directories, each of which lies in the next one, making those first
that are missing.  Directories made before a failure stay. -/
def makeDirectoriesAlong (workingDirectory : Location) :
    FileTree → List String → Except FileError Unit × FileTree
  | t, [] => (.error .notFound, t)
  | t, path :: parents =>
    if path.isEmpty then (.ok (), t)
    else
      match t.makeDirectory workingDirectory path with
      | .ok t => (.ok (), t)
      | .error .notFound =>
        match makeDirectoriesAlong workingDirectory t parents with
        | (.error e, t) => (.error e, t)
        | (.ok (), t) =>
          match t.makeDirectory workingDirectory path with
          | .ok t => (.ok (), t)
          | .error e =>
            (if t.isDirectory workingDirectory path then .ok () else .error e, t)
      | .error e => (if t.isDirectory workingDirectory path then .ok () else .error e, t)

/-- Makes a directory and those above it that are missing. -/
def makeDirectories (t : FileTree) (workingDirectory : Location) (path : String) :
    Except FileError Unit × FileTree :=
  makeDirectoriesAlong workingDirectory t (Path.ancestors path)

/-- The permission bits of a new file. -/
def newFileMode : Nat := 0o644

/-- The permission bits of a directory. -/
def directoryMode : Nat := 0o755

/-- Writes a file.  A file that is there keeps its permission bits. -/
def write (t : FileTree) (workingDirectory : Location) (path : String) (bytes : ByteArray) :
    Except FileError FileTree :=
  match t.locate workingDirectory path with
  | .error e => .error e
  | .ok location =>
    match t.get? location with
    | some .directory => .error .isADirectory
    | some (.file _ mode) => .ok (t.insert location (.file bytes mode))
    | none =>
      if Path.hasTrailingSlash path then .error .isADirectory
      else .ok (t.insert location (.file bytes newFileMode))

/-- Whether the last component of a path is a name, so that something can be put there. -/
def endsWithName (path : String) : Bool :=
  match (Path.components path).getLast? with
  | some name => name != "." && name != ".."
  | none => false

/-- Moves the file at a location to a path, over the file that is there.  A path that ends with a slash
asks for a directory, which a file cannot become, whatever stands there. -/
def rename (t : FileTree) (workingDirectory : Location) (source : Location) (path : String) :
    Except FileError FileTree :=
  match t.get? source with
  | some (.file bytes mode) =>
    match t.locate workingDirectory path with
    | .error e => .error e
    | .ok target =>
      if !endsWithName path then .error .busy
      else if Path.hasTrailingSlash path then .error .notADirectory
      else
        match t.get? target with
        | some .directory => .error .isADirectory
        | _ => .ok ((t.erase source).insert target (.file bytes mode))
  | _ => .error .notFound

/-- Whether something stands at a location. -/
def isTaken (t : FileTree) (location : Location) : Bool := (t.get? location).isSome

/-- The name of the `n`-th temporary file. -/
def temporaryName (n : Nat) : String := ".tmp" ++ toString n

/-- The first of the next `count` names for a temporary file that is free in a directory. -/
def freeNameFrom (t : FileTree) (directory : Location) (n : Nat) : Nat → String
  | 0 => temporaryName n
  | count + 1 =>
    if t.isTaken (directory ++ [temporaryName n]) then t.freeNameFrom directory (n + 1) count
    else temporaryName n

/-- A name for a temporary file that is free in a directory.  There are more names to try than there
are entries in the tree. -/
def freeName (t : FileTree) (directory : Location) : String :=
  t.freeNameFrom directory 0 t.entries.length

end FileTree
end InterfaceSync
