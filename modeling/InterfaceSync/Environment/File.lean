import InterfaceSync.Environment
import InterfaceSync.Text.Blank
import InterfaceSync.Text.Pieces
import InterfaceSync.Text.WordChar

/-!
# Environment files

A file `.env` sets variables that are not set otherwise, one on a line: `NAME=value`, perhaps with
`export` in front.  A value may be quoted, strongly with `'` or weakly with `"`; outside strong quotes
a backslash escapes and `$NAME` or `$\x7bNAME\x7d` stands for the value of a variable.  What follows a
blank behind the value must be a comment.

The lines are read in order.  A line that is malformed, or is no text, ends the reading, and what was
set before it stays set.
-/

namespace InterfaceSync.Environment.File

open Text

/-- The values given so far by the file itself, under the names that lines of it set; a line without
a value gives none. -/
abbrev Given := List (String × Option String)

/-- The value that a variable stands for inside another value: from the environment, or else from an
earlier line, or else nothing. -/
def lookup (env : Environment) (given : Given) (name : List Char) : List Char :=
  match env.get? (String.ofList name) with
  | some value => value.toList
  | none =>
    match given.lookup (String.ofList name) with
    | some (some value) => value.toList
    | _ => []

/-- Where the reading of a value stands: on ordinary characters, behind a blank that ended the value,
behind a backslash, in strong quotes, or in the name of a variable, with or without braces.  Weak
quotes go on around an escape and around a name. -/
inductive Mode where
  | plain
  | atEnd
  | escaped
  | strong
  | name (letters : List Char)
  | braced (letters : List Char)
  deriving DecidableEq, Repr

/-- The characters that stand for themselves behind a backslash, and `n` for a line feed. -/
def escape? (c : Char) : Option Char :=
  if c = '\\' ∨ c = '\'' ∨ c = '"' ∨ c = '$' ∨ c = ' ' then some c
  else if c = 'n' then some '\n'
  else none

/-- Reads a value from a mode on, inside weak quotes or outside, behind the characters in `value`,
last one first.  The letters of a name are kept in order. -/
def readValue (env : Environment) (given : Given) :
    Mode → Bool → List Char → List Char → Option (List Char)
  | .braced _, _, _, [] => none
  | .strong, _, _, [] => none
  | .name letters, weak, value, [] =>
    if weak then none else some (value.reverse ++ lookup env given letters)
  | _, weak, value, [] => if weak then none else some value.reverse
  | .atEnd, weak, value, c :: rest =>
    if c = ' ' ∨ c = '\t' then readValue env given .atEnd weak value rest
    else if c = '#' then (if weak then none else some value.reverse)
    else none
  | .escaped, weak, value, c :: rest =>
    match escape? c with
    | some e => readValue env given .plain weak (e :: value) rest
    | none => none
  | .strong, weak, value, c :: rest =>
    if c = '\'' then readValue env given .plain weak value rest
    else readValue env given .strong weak (c :: value) rest
  | .name letters, weak, value, c :: rest =>
    if isAlphanumeric c then readValue env given (.name (letters ++ [c])) weak value rest
    else if c = '\x7b' ∧ letters = [] then readValue env given (.braced []) weak value rest
    else
      let value := (lookup env given letters).reverse ++ value
      if c = '$' then readValue env given (.name []) weak value rest
      else readValue env given .plain weak (c :: value) rest
  | .braced letters, weak, value, c :: rest =>
    if c = '\x7d' then
      readValue env given .plain weak ((lookup env given letters).reverse ++ value) rest
    else readValue env given (.braced (letters ++ [c])) weak value rest
  | .plain, weak, value, c :: rest =>
    if c = '$' then readValue env given (.name []) weak value rest
    else if c = '\\' then readValue env given .escaped weak value rest
    else if c = '"' then readValue env given .plain (!weak) value rest
    else if weak then readValue env given .plain weak (c :: value) rest
    else if c = '\'' then readValue env given .strong weak value rest
    else if c = ' ' ∨ c = '\t' then readValue env given .atEnd weak value rest
    else readValue env given .plain weak (c :: value) rest

/-- The name of a variable in front of a text, and the text behind it with the white space skipped. -/
def readName? (text : List Char) : Option (String × List Char) :=
  match text with
  | c :: _ =>
    if c.isAlpha || c == '_' then
      let isNameChar := fun c : Char => c.isAlphanum || c == '_' || c == '.'
      some (String.ofList (text.takeWhile isNameChar), trimStart (text.dropWhile isNameChar))
    else none
  | [] => none

/-- What stands behind the equals sign in front of a text. -/
def skipEquals? (text : List Char) : Option (List Char) :=
  match text with
  | '=' :: rest => some rest
  | _ => none

/-- The name that a line sets and the text behind its equals sign.  The word `export` in front of a
name is read past, unless it is the name. -/
def readAssignment? (text : List Char) : Option (String × List Char) := do
  let (name, rest) ← readName? text
  match skipEquals? rest with
  | some value => some (name, value)
  | none =>
    if name = "export" then
      let (name, rest) ← readName? rest
      let value ← skipEquals? rest
      some (name, value)
    else none

/-- Whether nothing, or only a comment, is left. -/
def isOver (text : List Char) : Bool :=
  match text with
  | [] => true
  | c :: _ => c == '#'

/-- Reads a line: `some none` if there is nothing on it, and otherwise a name and its value, if it has
one. -/
def readLine? (env : Environment) (given : Given) (line : List Char) :
    Option (Option (String × Option String)) :=
  let text := trim line
  if isOver text then some none
  else do
    let (name, rest) ← readAssignment? text
    let rest := trimStart rest
    if isOver rest then some (some (name, none))
    else do
      let value ← readValue env given .plain false [] rest
      some (some (name, some (String.ofList value)))

/-- The text of a line. -/
def lineText? (bytes : List UInt8) : Option (List Char) :=
  (String.fromUTF8? ⟨bytes.toArray⟩).map String.toList

/-- Sets the variables that lines name, as far as the lines can be read. -/
def loadLines (env : Environment) (given : Given) : List (List UInt8) → Environment
  | [] => env
  | bytes :: rest =>
    match (lineText? bytes).bind (readLine? env given) with
    | none => env
    | some none => loadLines env given rest
    | some (some (name, value)) =>
      loadLines (env.setIfUnset name (value.getD "")) ((name, value) :: given) rest

/-- The environment once a file with the given bytes has been read. -/
def load (env : Environment) (bytes : ByteArray) : Environment :=
  loadLines env [] (pieces (· == 10) bytes.toList)

end InterfaceSync.Environment.File
