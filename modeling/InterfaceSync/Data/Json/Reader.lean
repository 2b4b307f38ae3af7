import InterfaceSync.Data.Datum
import InterfaceSync.Text.HexDigit

/-!
# Reading JSON

A reader of JSON texts over lists of characters.  Each function reads one thing from the front and
answers with what it read and with the rest; `none` means that the text is not JSON.

Strings are read in two steps.  The first cuts the string off and checks its escapes, the second
joins the surrogate pairs that escapes may write.  A half pair is well formed and denotes no text,
and such a value comes out as `Datum.meaningless`.
-/

namespace InterfaceSync.Json

/-- What is left of a text once the blanks in front of it are gone. -/
def skipBlanks (text : List Char) : List Char :=
  text.dropWhile fun c => c == ' ' || c == '\n' || c == '\t' || c == '\r'

/-- The number written by four hexadecimal digits. -/
def hexUnit? (a b c d : Char) : Option Nat := do
  let a ← Text.hexDigit? a
  let b ← Text.hexDigit? b
  let c ← Text.hexDigit? c
  let d ← Text.hexDigit? d
  some (((a * 16 + b) * 16 + c) * 16 + d)

/-- The character that a short escape stands for. -/
def shortEscape? (c : Char) : Option Char :=
  match c with
  | '"' => some '"'
  | '\\' => some '\\'
  | '/' => some '/'
  | 'b' => some '\x08'
  | 'f' => some '\x0c'
  | 'n' => some '\n'
  | 'r' => some '\r'
  | 't' => some '\t'
  | _ => none

/-- The code points of a string up to its closing quote, halves of surrogate pairs still apart. -/
def readUnits : List Char → Option (List Nat × List Char)
  | [] => none
  | '"' :: rest => some ([], rest)
  | '\\' :: 'u' :: a :: b :: c :: d :: rest => do
    let unit ← hexUnit? a b c d
    let (units, rest) ← readUnits rest
    some (unit :: units, rest)
  | '\\' :: c :: rest => do
    let e ← shortEscape? c
    let (units, rest) ← readUnits rest
    some (e.toNat :: units, rest)
  | c :: rest =>
    if c.toNat < 0x20 then none
    else do
      let (units, rest) ← readUnits rest
      some (c.toNat :: units, rest)

/-- The characters of a string; `none` if half a surrogate pair is left over. -/
def joinSurrogates : List Nat → Option (List Char)
  | [] => some []
  | [n] => if 0xD800 ≤ n ∧ n ≤ 0xDFFF then none else some [Char.ofNat n]
  | n :: m :: rest =>
    if 0xD800 ≤ n ∧ n ≤ 0xDBFF then
      if 0xDC00 ≤ m ∧ m ≤ 0xDFFF then
        (joinSurrogates rest).map
          (Char.ofNat (0x10000 + (n - 0xD800) * 0x400 + (m - 0xDC00)) :: ·)
      else none
    else if 0xDC00 ≤ n ∧ n ≤ 0xDFFF then none
    else (joinSurrogates (m :: rest)).map (Char.ofNat n :: ·)

/-- A string behind its opening quote; its text is `none` if it denotes none. -/
def readText (text : List Char) : Option (Option String × List Char) := do
  let (units, rest) ← readUnits text
  some ((joinSurrogates units).map String.ofList, rest)

/-- The digits in front of a text, and the rest. -/
def spanDigits (text : List Char) : List Char × List Char :=
  (text.takeWhile Char.isDigit, text.dropWhile Char.isDigit)

/-- The whole part of a number: a zero alone, or digits that do not begin with one. -/
def readWhole (text : List Char) : Option (List Char × List Char) :=
  match text with
  | '0' :: c :: rest => if c.isDigit then none else some (['0'], c :: rest)
  | ['0'] => some (['0'], [])
  | _ =>
    let (digits, rest) := spanDigits text
    if digits.isEmpty then none else some (digits, rest)

/-- The fraction of a number, if it has one. -/
def readFraction (text : List Char) : Option (List Char × List Char) :=
  match text with
  | '.' :: rest =>
    let (digits, rest) := spanDigits rest
    if digits.isEmpty then none else some ('.' :: digits, rest)
  | _ => some ([], text)

/-- The exponent of a number, if it has one. -/
def readExponent (text : List Char) : Option (List Char × List Char) :=
  match text with
  | c :: rest =>
    if c = 'e' ∨ c = 'E' then
      let (sign, rest) :=
        match rest with
        | '+' :: rest => (['+'], rest)
        | '-' :: rest => (['-'], rest)
        | _ => ([], rest)
      let (digits, rest) := spanDigits rest
      if digits.isEmpty then none else some (c :: sign ++ digits, rest)
    else some ([], text)
  | [] => some ([], [])

/-- A number. -/
def readNumber (text : List Char) : Option (Datum × List Char) := do
  let (sign, rest) :=
    match text with
    | '-' :: rest => (['-'], rest)
    | _ => ([], text)
  let (whole, rest) ← readWhole rest
  let (fraction, rest) ← readFraction rest
  let (exponent, rest) ← readExponent rest
  some (.number (String.ofList (sign ++ whole ++ fraction ++ exponent)), rest)

/-- The record with the given entries, if each of its keys is a text. -/
def recordOf (entries : List (Option String × Datum)) : Datum :=
  match entries.mapM fun entry => entry.1.map (·, entry.2) with
  | some entries => .record entries
  | none => .meaningless

mutual

/-- A value, blanks in front of it skipped.  Each step in depth or along a list costs one unit of
`fuel`. -/
def readValue (fuel : Nat) (text : List Char) : Option (Datum × List Char) :=
  match fuel with
  | 0 => none
  | fuel + 1 =>
    match skipBlanks text with
    | 'n' :: 'u' :: 'l' :: 'l' :: rest => some (.null, rest)
    | 't' :: 'r' :: 'u' :: 'e' :: rest => some (.bool true, rest)
    | 'f' :: 'a' :: 'l' :: 's' :: 'e' :: rest => some (.bool false, rest)
    | '"' :: rest => do
      let (s, rest) ← readText rest
      some (s.elim .meaningless .text, rest)
    | '[' :: rest =>
      match skipBlanks rest with
      | ']' :: rest => some (.list [], rest)
      | rest => do
        let (items, rest) ← readItems fuel rest
        some (.list items, rest)
    | '\x7b' :: rest =>
      match skipBlanks rest with
      | '\x7d' :: rest => some (.record [], rest)
      | rest => do
        let (entries, rest) ← readEntries fuel rest
        some (recordOf entries, rest)
    | text => readNumber text

/-- The items of a list from the first one on, with the closing bracket. -/
def readItems (fuel : Nat) (text : List Char) : Option (List Datum × List Char) :=
  match fuel with
  | 0 => none
  | fuel + 1 => do
    let (d, rest) ← readValue fuel text
    match skipBlanks rest with
    | ']' :: rest => some ([d], rest)
    | ',' :: rest => do
      let (items, rest) ← readItems fuel rest
      some (d :: items, rest)
    | _ => none

/-- The entries of a record from the first one on, with the closing brace. -/
def readEntries (fuel : Nat) (text : List Char) :
    Option (List (Option String × Datum) × List Char) :=
  match fuel with
  | 0 => none
  | fuel + 1 =>
    match skipBlanks text with
    | '"' :: rest => do
      let (key, rest) ← readText rest
      match skipBlanks rest with
      | ':' :: rest => do
        let (d, rest) ← readValue fuel rest
        match skipBlanks rest with
        | '\x7d' :: rest => some ([(key, d)], rest)
        | ',' :: rest => do
          let (entries, rest) ← readEntries fuel rest
          some ((key, d) :: entries, rest)
        | _ => none
      | _ => none
    | _ => none

end

/-- The datum that a JSON text writes.  Between one value and the next of the recursion at least one
character is read on every second step, so twice the length of the text is fuel enough. -/
def read? (text : String) : Option Datum :=
  let chars := text.toList
  match readValue (2 * chars.length + 2) chars with
  | some (d, rest) => if (skipBlanks rest).isEmpty then some d else none
  | none => none

end InterfaceSync.Json
