import InterfaceSync.Data.Toml.Key
import InterfaceSync.Data.Toml.Moment
import InterfaceSync.Data.Toml.Scalar
import InterfaceSync.Data.Toml.Table

/-!
# Reading TOML

A document is read into a list of statements, and the statements are then carried out one after the
other on a table that is empty at first.  The reading knows nothing of tables that exist already, and
the carrying out knows nothing of characters.

Each function reads one thing from the front of a text and answers with what it read and with the
rest; `none` means that the text is not TOML.
-/

namespace InterfaceSync.Toml

/-- What is left of a text once blanks, line breaks and comments in front of it are gone; the flag says
whether the text begins inside a comment. -/
def skipSpace : Bool → List Char → Option (List Char)
  | _, [] => some []
  | inComment, c :: rest =>
    if startsLineBreak (c :: rest) then skipSpace false rest
    else if inComment then (if isForbidden c then none else skipSpace true rest)
    else if c = ' ' ∨ c = '\t' then skipSpace false rest
    else if c = '#' then skipSpace true rest
    else some (c :: rest)

/-- What is left of a text once the rest of its first line is gone, on which only blanks and a comment
may stand; the flag says whether the text begins inside a comment. -/
def finishLine : Bool → List Char → Option (List Char)
  | _, [] => some []
  | inComment, c :: rest =>
    if startsLineBreak (c :: rest) then some (skipLineBreak (c :: rest))
    else if inComment then (if isForbidden c then none else finishLine true rest)
    else if c = ' ' ∨ c = '\t' then finishLine false rest
    else if c = '#' then finishLine true rest
    else none

/-- The name under which a point in time appears in data. -/
def momentKey : String := "moment"

/-- The data that an unquoted value stands for. -/
def scalar? (text : List Char) : Option Datum :=
  if text = "true".toList then some (.bool true)
  else if text = "false".toList then some (.bool false)
  else if isWhole text || isFractional text then some (.number (String.ofList text))
  else if isMoment text then some (.record [(momentKey, .text (String.ofList text))])
  else none

/-- The time of day that follows a date and a single blank, the blank included; nothing if something
else follows. -/
def timeBehind (date rest : List Char) : List Char :=
  match rest with
  | ' ' :: c :: behind =>
    if c.isDigit && (skipDate? date).any List.isEmpty then
      ' ' :: (c :: behind).takeWhile isScalarChar
    else []
  | _ => []

/-- An unquoted value. -/
def readScalar (text : List Char) : Option (Datum × List Char) :=
  let front := text.takeWhile isScalarChar
  let rest := text.drop front.length
  let time := timeBehind front rest
  (scalar? (front ++ time)).map fun d => (d, rest.drop time.length)

/-- How deep arrays and tables on one line may be nested. -/
def maxDepth : Nat := 80

mutual

/-- A value.  It may have `depth` levels of arrays and tables; each step in depth or along one of them
costs one unit of `fuel`. -/
def readValue (fuel depth : Nat) (text : List Char) : Option (Datum × List Char) :=
  match fuel, depth with
  | 0, _ => none
  | fuel + 1, depth =>
    match text with
    | '[' :: rest =>
      if depth = 0 then none
      else do
        let (items, rest) ← readItems fuel (depth - 1) (← skipSpace false rest)
        some (.list items, rest)
    | '\x7b' :: rest =>
      if depth = 0 then none
      else do
        let (entries, rest) ← readEntries fuel (depth - 1) [] (← skipSpace false rest)
        some (entries.datum, rest)
    | '"' :: _ | '\'' :: _ => (readQuoted text).map fun r => (.text (String.ofList r.1), r.2)
    | _ => readScalar text

/-- The items of an array from an item on, with the closing bracket. -/
def readItems (fuel depth : Nat) (text : List Char) : Option (List Datum × List Char) :=
  match fuel, text with
  | 0, _ => none
  | _, ']' :: rest => some ([], rest)
  | fuel + 1, _ => do
    let (d, rest) ← readValue fuel depth text
    match ← skipSpace false rest with
    | ',' :: rest => do
      let (items, rest) ← readItems fuel depth (← skipSpace false rest)
      some (d :: items, rest)
    | ']' :: rest => some ([d], rest)
    | _ => none

/-- The entries of a table on one line from an entry on, put to those in front of it, with the closing
brace.  Line breaks and comments may stand between all parts of such a table. -/
def readEntries (fuel depth : Nat) (entries : Entries) (text : List Char) :
    Option (Entries × List Char) :=
  match fuel, text with
  | 0, _ => none
  | _, '\x7d' :: rest => some (entries, rest)
  | fuel + 1, _ => do
    let (key, rest) ← readKey? text
    match ← skipSpace false rest with
    | '=' :: rest => do
      let (d, rest) ← readValue fuel depth (← skipSpace false rest)
      let entries ← entries.assign key.last d key.path
      match ← skipSpace false rest with
      | ',' :: rest => readEntries fuel depth entries (← skipSpace false rest)
      | '\x7d' :: rest => some (entries, rest)
      | _ => none
    | _ => none

end

/-- A statement of a document: the heading of a table, the heading of one more of several tables, or a
value for a key. -/
inductive Statement where
  | table (key : Key)
  | tables (key : Key)
  | assign (key : Key) (d : Datum)

/-- What follows a text. -/
def skipText? (piece : List Char) (text : List Char) : Option (List Char) :=
  piece.isPrefixOf? text

/-- A statement, from its first character on. -/
def readStatement? (fuel : Nat) (text : List Char) : Option (Statement × List Char) :=
  match text with
  | '[' :: '[' :: rest => do
    let (key, rest) ← readKey? (skipBlanks rest)
    some (.tables key, ← skipText? [']', ']'] rest)
  | '[' :: rest => do
    let (key, rest) ← readKey? (skipBlanks rest)
    some (.table key, ← skipText? [']'] rest)
  | _ => do
    let (key, rest) ← readKey? text
    let (d, rest) ← readValue fuel maxDepth (skipBlanks (← skipText? ['='] rest))
    some (.assign key d, rest)

/-- At most `count` statements, each on lines of its own. -/
def readStatements? : Nat → List Char → Option (List Statement)
  | 0, _ => none
  | count + 1, text => do
    match ← skipSpace false text with
    | [] => some []
    | text =>
      let (statement, rest) ← readStatement? (2 * text.length + 2) text
      let statements ← readStatements? count (← finishLine false rest)
      some (statement :: statements)

/-- A document that is being put together: its tables so far, and the path to the one that the last
heading wrote down. -/
structure Assembly where
  entries : Entries
  heading : List String

/-- Carries out a statement. -/
def Assembly.carryOut? (a : Assembly) : Statement → Option Assembly
  | .table key => (a.entries.openTable key.last key.path).map fun entries => ⟨entries, key.wholePath⟩
  | .tables key =>
    (a.entries.openTables key.last key.path).map fun entries => ⟨entries, key.wholePath⟩
  | .assign key d =>
    (Entries.within (Entries.assign key.last d key.path) a.heading a.entries).map fun entries =>
      { a with entries := entries }

/-- A text behind a byte order mark, if one stands in front of it. -/
def skipByteOrderMark (text : List Char) : List Char :=
  match text with
  | '\uFEFF' :: rest => rest
  | _ => text

/-- The datum that a TOML text writes.  Every statement takes up a character at least, so the length of
the text bounds their number. -/
def read? (text : String) : Option Datum := do
  let text := skipByteOrderMark text.toList
  let statements ← readStatements? (text.length + 1) text
  let assembly ← statements.foldlM Assembly.carryOut? ⟨[], []⟩
  some assembly.entries.datum

end InterfaceSync.Toml
