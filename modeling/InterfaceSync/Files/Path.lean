import InterfaceSync.Text.Pieces

/-!
# Paths

A path is a text.  Its components are what stands between the slashes; a path that begins with a slash
starts at the root, every other one at the working directory.  Taking the parent of a path and going
up from it are done on the text, without looking at a file system, and do not touch what is left of
the path: the parent of `./a//b` is `./a`.
-/

namespace InterfaceSync.Path

/-- Whether a path starts at the root. -/
def isAbsolute (path : String) : Bool := path.toList.head? == some '/'

/-- Whether a path ends with a slash, so that it can only be a directory. -/
def hasTrailingSlash (path : String) : Bool := path.toList.getLast? == some '/'

/-- The components of a path. -/
def components (path : String) : List String :=
  ((Text.pieces (· == '/') path.toList).filter fun part => !part.isEmpty).map String.ofList

/-- A path, written backwards, without the slashes and single dots behind its last component.  The
root is one slash, and a dot at the very front is a component. -/
def trimBackwards : List Char → List Char
  | ['/'] => ['/']
  | '/' :: rest => trimBackwards rest
  | '.' :: '/' :: rest => trimBackwards ('/' :: rest)
  | rest => rest
  termination_by reversed => reversed.length

/-- The parent of a path: the path without its last component.  A path without components has none. -/
def parent? (path : String) : Option String :=
  match trimBackwards path.toList.reverse with
  | [] => none
  | ['/'] => none
  | reversed =>
    some (String.ofList (trimBackwards (reversed.dropWhile (· != '/'))).reverse)

/-- At most `count` of the paths from a path upward. -/
def ancestorsWithin : Nat → String → List String
  | 0, _ => []
  | count + 1, path =>
    path ::
      match parent? path with
      | some up => ancestorsWithin count up
      | none => []

/-- A path, its parent, the parent of that, and so on.  Each is shorter than the one before, so the
length of the path bounds their number. -/
def ancestors (path : String) : List String :=
  ancestorsWithin (path.length + 1) path

/-- The path of a name inside a directory. -/
def join (directory name : String) : String :=
  if directory.isEmpty then name
  else if hasTrailingSlash directory then directory ++ name
  else directory ++ "/" ++ name

/-- The last component of a path, unless that is a dot or two dots or there is none. -/
def fileName? (path : String) : Option String :=
  match (components path).filter (· != ".") |>.getLast? with
  | some name => if name == ".." then none else some name
  | none => none

/-- What stands behind the last dot of the name of a file.  A dot at the front of the name is not
counted. -/
def extension? (path : String) : Option String :=
  (fileName? path).bind fun name =>
    let reversed := name.toList.reverse
    let suffix := reversed.takeWhile (· != '.')
    match reversed.drop suffix.length with
    | _ :: _ :: _ => some (String.ofList suffix.reverse)
    | _ => none

end InterfaceSync.Path
