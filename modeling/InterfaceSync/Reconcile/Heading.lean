import InterfaceSync.Text.Blank

/-!
# The heading of an interface

The block of an interface begins at the first line that reads `interface Name`, behind `export` or
not, where after the name comes an opening brace, the word `extends`, or the end of the line.  White
space may stand in front, must stand between the words, and may stand behind the name.  A byte order
mark in front of everything is passed over.

The name may be any text, also one that begins or ends with white space of its own.  So the white
space behind the keyword is given to the keyword and to the name in every possible way.
-/

namespace InterfaceSync.Heading

open Text

/-- Whether a heading is at its end behind the name: a brace, `extends`, or nothing more. -/
def endsHere (text : List Char) : Bool :=
  match trimStart text with
  | [] => true
  | c :: rest => c == '\x7b' || "extends".toList.isPrefixOf (c :: rest)

/-- Whether white space, at least one character of it, then the name, then the end of the heading
follow. -/
def namesInterface (name : List Char) : List Char → Bool
  | [] => false
  | c :: rest =>
    isBlank c && (((name.isPrefixOf? rest).any endsHere) || namesInterface name rest)

/-- A line behind a byte order mark, if one stands in front of it. -/
def skipByteOrderMark (body : List Char) : List Char :=
  match body with
  | '\uFEFF' :: rest => rest
  | _ => body

/-- A line behind `export` and white space, if they stand in front of it. -/
def skipExport (text : List Char) : List Char :=
  match "export".toList.isPrefixOf? text with
  | some (c :: rest) => if isBlank c then trimStart rest else text
  | _ => text

/-- Whether a line is the heading of the interface with the given name. -/
def opens (name body : List Char) : Bool :=
  ("interface".toList.isPrefixOf? (skipExport (trimStart (skipByteOrderMark body)))).any
    (namesInterface name)

end InterfaceSync.Heading
