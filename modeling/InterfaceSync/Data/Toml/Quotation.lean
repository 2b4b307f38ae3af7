import InterfaceSync.Text.HexDigit

/-!
# Quoted texts of TOML

A text stands between single quotes, and then every character of it is meant as it is, or between
double quotes, and then a backslash escapes.  Either kind of quote may also be written three times,
and then the text may go on over several lines; a line break right behind the opening quotes is not
part of it.  Up to two quotes in front of the three closing ones belong to the text.

All functions read what stands behind the opening quotes and answer with the text and with what
follows the closing ones.
-/

namespace InterfaceSync.Toml

/-- A character that may not stand in a text or in a comment: a control, except for the tab. -/
def isForbidden (c : Char) : Bool :=
  (c.toNat < 0x20 && c != '\t') || c.toNat == 0x7F

/-- Whether a line break begins here: a line feed, or a carriage return with a line feed behind it. -/
def startsLineBreak : List Char → Bool
  | '\n' :: _ => true
  | '\r' :: '\n' :: _ => true
  | _ => false

/-- Whether a character may stand in front of `rest` in a text over several lines. -/
def isAllowedOnLines (c : Char) (rest : List Char) : Bool :=
  !isForbidden c || startsLineBreak (c :: rest)

/-- What follows the line break in front of a text, if one is there. -/
def skipLineBreak : List Char → List Char
  | '\n' :: rest => rest
  | '\r' :: '\n' :: rest => rest
  | text => text

/-- The closing quotes of a text over several lines: the quotes in front of them that still belong to
the text, and what follows. -/
def closing? (quote : Char) (text : List Char) : Option (List Char × List Char) :=
  let quotes := (text.take 5).takeWhile (· == quote)
  if 3 ≤ quotes.length then some (quotes.drop 3, text.drop quotes.length) else none

/-- A text between single quotes. -/
def readLiteral : List Char → Option (List Char × List Char)
  | [] => none
  | '\'' :: rest => some ([], rest)
  | c :: rest =>
    if isForbidden c then none
    else (readLiteral rest).map fun r => (c :: r.1, r.2)

/-- A text between single quotes written three times, behind its first line break. -/
def readLiteralLines : List Char → Option (List Char × List Char)
  | [] => none
  | c :: rest =>
    match closing? '\'' (c :: rest) with
    | some found => some found
    | none =>
      if isAllowedOnLines c rest then (readLiteralLines rest).map fun r => (c :: r.1, r.2)
      else none

/-- Where the reading of a text with escapes stands: on ordinary characters, behind a backslash, in
the digits of a character number, or behind a backslash that ends a line, where all white space is
passed over once the line break has been seen. -/
inductive Mode where
  | plain
  | escaped
  | number (digitsLeft value : Nat)
  | folding (brokenLine : Bool)
  deriving DecidableEq, Repr

/-- The character that a single letter stands for behind a backslash. -/
def shortEscape? (c : Char) : Option Char :=
  match c with
  | '"' => some '"'
  | '\\' => some '\\'
  | 'b' => some '\x08'
  | 'e' => some '\x1b'
  | 'f' => some '\x0c'
  | 'n' => some '\n'
  | 'r' => some '\r'
  | 't' => some '\t'
  | _ => none

/-- How many digits follow a letter that announces the number of a character. -/
def escapeDigits? (c : Char) : Option Nat :=
  match c with
  | 'x' => some 2
  | 'u' => some 4
  | 'U' => some 8
  | _ => none

/-- The character of a given number. -/
def charOfNumber? (n : Nat) : Option Char :=
  if n.isValidChar then some (Char.ofNat n) else none

/-- What a character inside an escape completes, if it does, and the next mode. -/
def escapeStep (mode : Mode) (c : Char) : Option (Option Char × Mode) :=
  match mode with
  | .escaped =>
    match shortEscape? c with
    | some e => some (some e, .plain)
    | none => (escapeDigits? c).map fun n => (none, .number n 0)
  | .number digitsLeft value =>
    (Text.hexDigit? c).bind fun digit =>
      let value := 16 * value + digit
      if digitsLeft ≤ 1 then (charOfNumber? value).map fun e => (some e, .plain)
      else some (none, .number (digitsLeft - 1) value)
  | _ => none

/-- A text between double quotes, from a mode on. -/
def readBasic : Mode → List Char → Option (List Char × List Char)
  | _, [] => none
  | .plain, c :: rest =>
    if c = '"' then some ([], rest)
    else if c = '\\' then readBasic .escaped rest
    else if isForbidden c then none
    else (readBasic .plain rest).map fun r => (c :: r.1, r.2)
  | mode, c :: rest =>
    match escapeStep mode c with
    | some (some e, next) => (readBasic next rest).map fun r => (e :: r.1, r.2)
    | some (none, next) => readBasic next rest
    | none => none

/-- The mode behind a character that is passed over because a line is folded; `none` if it is not.  A
fold begins behind a backslash and goes on as long as there is white space. -/
def foldStep? (mode : Mode) (c : Char) (rest : List Char) : Option Mode :=
  match mode with
  | .plain | .number _ _ => none
  | .escaped =>
    if c = ' ' ∨ c = '\t' then some (.folding false)
    else if startsLineBreak (c :: rest) then some (.folding true)
    else none
  | .folding brokenLine =>
    if c = ' ' ∨ c = '\t' then some (.folding brokenLine)
    else if startsLineBreak (c :: rest) then some (.folding true)
    else none

/-- A text between double quotes written three times, from a mode on, behind its first line break. -/
def readBasicLines : Mode → List Char → Option (List Char × List Char)
  | _, [] => none
  | mode, c :: rest =>
    match foldStep? mode c rest with
    | some next => readBasicLines next rest
    | none =>
      match mode with
      | .folding false => none
      | .escaped | .number _ _ =>
        match escapeStep mode c with
        | some (some e, next) => (readBasicLines next rest).map fun r => (e :: r.1, r.2)
        | some (none, next) => readBasicLines next rest
        | none => none
      | .plain | .folding true =>
        match closing? '"' (c :: rest) with
        | some found => some found
        | none =>
          if c = '\\' then readBasicLines .escaped rest
          else if isAllowedOnLines c rest then
            (readBasicLines .plain rest).map fun r => (c :: r.1, r.2)
          else none

/-- A text in quotes of any kind, from its opening quotes on. -/
def readQuoted : List Char → Option (List Char × List Char)
  | '"' :: '"' :: '"' :: rest => readBasicLines .plain (skipLineBreak rest)
  | '"' :: rest => readBasic .plain rest
  | '\'' :: '\'' :: '\'' :: rest => readLiteralLines (skipLineBreak rest)
  | '\'' :: rest => readLiteral rest
  | _ => none

/-- A text on one line, which may also be a key. -/
def readQuotedKey : List Char → Option (List Char × List Char)
  | '"' :: rest => readBasic .plain rest
  | '\'' :: rest => readLiteral rest
  | _ => none

end InterfaceSync.Toml
