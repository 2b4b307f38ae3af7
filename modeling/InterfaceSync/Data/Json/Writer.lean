import InterfaceSync.Data.Datum

/-!
# Writing JSON

Two layouts of the same text: on one line without blanks, and indented by two blanks a level.  In a
string only the quote, the backslash and the controls below the blank are escaped; everything else
stands for itself.
-/

namespace InterfaceSync.Json

/-- A control character by its number, four hexadecimal digits wide. -/
def escapeByNumber (c : Char) : List Char :=
  let digits := Nat.toDigits 16 c.toNat
  ['\\', 'u'] ++ List.replicate (4 - digits.length) '0' ++ digits

/-- A character inside a string. -/
def escapeChar (c : Char) : List Char :=
  if c = '"' then ['\\', '"']
  else if c = '\\' then ['\\', '\\']
  else if c = '\n' then ['\\', 'n']
  else if c = '\r' then ['\\', 'r']
  else if c = '\t' then ['\\', 't']
  else if c = '\x08' then ['\\', 'b']
  else if c = '\x0c' then ['\\', 'f']
  else if c.toNat < 0x20 then escapeByNumber c
  else [c]

/-- A text between quotes. -/
def writeText (s : String) : List Char :=
  '"' :: s.toList.flatMap escapeChar ++ ['"']

mutual

/-- The text of a datum on one line. -/
def writeLine : Datum → List Char
  | .null => "null".toList
  | .meaningless => "null".toList
  | .bool true => "true".toList
  | .bool false => "false".toList
  | .number spelling => spelling.toList
  | .text s => writeText s
  | .list items => '[' :: writeLineItems items ++ [']']
  | .record entries => '\x7b' :: writeLineEntries entries ++ ['\x7d']

/-- The items of a list with commas between. -/
def writeLineItems : List Datum → List Char
  | [] => []
  | [d] => writeLine d
  | d :: rest => writeLine d ++ ',' :: writeLineItems rest

/-- The entries of a record with commas between. -/
def writeLineEntries : List (String × Datum) → List Char
  | [] => []
  | [(key, d)] => writeText key ++ ':' :: writeLine d
  | (key, d) :: rest => writeText key ++ ':' :: writeLine d ++ ',' :: writeLineEntries rest

end

/-- A line break and the indentation of a level. -/
def newLine (level : Nat) : List Char :=
  '\n' :: List.replicate (2 * level) ' '

mutual

/-- The indented text of a datum that begins on a level. -/
def writeIndented (level : Nat) : Datum → List Char
  | .list [] => ['[', ']']
  | .record [] => ['\x7b', '\x7d']
  | .list items => '[' :: writeIndentedItems (level + 1) items ++ newLine level ++ [']']
  | .record entries =>
    '\x7b' :: writeIndentedEntries (level + 1) entries ++ newLine level ++ ['\x7d']
  | d => writeLine d

/-- The items of a list, each on lines of its own. -/
def writeIndentedItems (level : Nat) : List Datum → List Char
  | [] => []
  | [d] => newLine level ++ writeIndented level d
  | d :: rest => newLine level ++ writeIndented level d ++ ',' :: writeIndentedItems level rest

/-- The entries of a record, each on lines of its own. -/
def writeIndentedEntries (level : Nat) : List (String × Datum) → List Char
  | [] => []
  | [(key, d)] => newLine level ++ writeText key ++ [':', ' '] ++ writeIndented level d
  | (key, d) :: rest =>
    newLine level ++ writeText key ++ [':', ' '] ++ writeIndented level d
      ++ ',' :: writeIndentedEntries level rest

end

/-- The text of a datum on one line. -/
def line (d : Datum) : String := String.ofList (writeLine d)

/-- The indented text of a datum. -/
def indented (d : Datum) : String := String.ofList (writeIndented 0 d)

end InterfaceSync.Json
