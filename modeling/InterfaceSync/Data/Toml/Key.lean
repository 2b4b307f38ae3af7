import InterfaceSync.Data.Toml.Quotation

/-!
# Keys of TOML

A key is a path of parts with dots between; each part is a bare word or a text in quotes.  What stands
in front of the last part leads to a table, and the last part names something in it.
-/

namespace InterfaceSync.Toml

/-- A key, parted in front of its last part. -/
structure Key where
  path : List String
  last : String
  deriving DecidableEq, Repr

namespace Key

/-- The key that leads to what the key itself names. -/
def wholePath (k : Key) : List String := k.path ++ [k.last]

/-- The greatest number of parts that a key may have. -/
def maxParts : Nat := 80

/-- The key with the given parts, of which there must be one. -/
def ofParts? (parts : List String) : Option Key :=
  parts.getLast?.map fun last => ⟨parts.dropLast, last⟩

end Key

/-- The characters of a bare word. -/
def isBareChar (c : Char) : Bool := c.isAlphanum || c == '-' || c == '_'

/-- What is left of a text once the blanks and tabs in front of it are gone. -/
def skipBlanks (text : List Char) : List Char :=
  text.dropWhile fun c => c == ' ' || c == '\t'

/-- One part of a key. -/
def readKeyPart? (text : List Char) : Option (String × List Char) :=
  match text with
  | [] => none
  | c :: _ =>
    if isBareChar c then
      some (String.ofList (text.takeWhile isBareChar), text.dropWhile isBareChar)
    else (readQuotedKey text).map fun r => (String.ofList r.1, r.2)

/-- At most `count` parts of a key, with the blanks behind them. -/
def readKeyParts? : Nat → List Char → Option (List String × List Char)
  | 0, _ => none
  | count + 1, text => do
    let (part, rest) ← readKeyPart? text
    match skipBlanks rest with
    | '.' :: rest => do
      let (parts, rest) ← readKeyParts? count (skipBlanks rest)
      some (part :: parts, rest)
    | rest => some ([part], rest)

/-- A key, with the blanks behind it.  A key with too many parts is refused. -/
def readKey? (text : List Char) : Option (Key × List Char) := do
  let (parts, rest) ← readKeyParts? Key.maxParts text
  some (← Key.ofParts? parts, rest)

end InterfaceSync.Toml
