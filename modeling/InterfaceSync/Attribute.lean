import InterfaceSync.Fault
import InterfaceSync.Schema.Model

/-!
# Attribute arguments

On the command line a field is written `name`, `name:kind` or `name:kind{options}`, and behind any of
these may stand `:index` or `:uniq`.  The options and the mark of an index belong to the database and
are read past.  A kind is read before a mark of an index is: in `name:index` the word `index` is the
kind.
-/

namespace InterfaceSync.Attribute

/-- The characters a name may begin with. -/
def isNameStart (c : Char) : Bool := c.isAlpha || c == '_'

/-- The characters of a name. -/
def isNameChar (c : Char) : Bool := c.isAlphanum || c == '_'

/-- The characters of a kind. -/
def isKindChar (c : Char) : Bool := c.isAlpha || c == '_'

/-- The characters of options, which hold no braces. -/
def isOptionChar (c : Char) : Bool := c != '\x7b' && c != '\x7d'

/-- Whether a text is nothing or the mark of an index. -/
def isIndexMark (text : List Char) : Bool :=
  text.isEmpty || text == ":index".toList || text == ":uniq".toList

/-- What follows the options in front of a text, if options in braces stand there; otherwise the text
itself. -/
def skipOptions (text : List Char) : List Char :=
  match text with
  | '\x7b' :: rest =>
    match rest.dropWhile isOptionChar with
    | '\x7d' :: rest => rest
    | _ => text
  | _ => text

/-- The kind that follows a name; `some none` if none does, `none` if what follows is no kind. -/
def readKind? (text : List Char) : Option (Option (List Char)) :=
  match text with
  | [] => some none
  | ':' :: rest =>
    let kind := rest.takeWhile isKindChar
    if !kind.isEmpty && isIndexMark (skipOptions (rest.dropWhile isKindChar)) then some (some kind)
    else none
  | _ => none

/-- Reads one argument, white space around it put aside. -/
def read? (argument : String) : Option Field :=
  match Text.trim argument.toList with
  | [] => none
  | c :: rest =>
    if isNameStart c then
      (readKind? (rest.dropWhile isNameChar)).map fun kind =>
        { name := String.ofList (c :: rest.takeWhile isNameChar)
          type := (kind.map fun k => FieldType.ofText (String.ofList k)).getD .unspecified
          target := none }
    else none

/-- Reads all arguments in order; the first one that is not of the form is the failure. -/
def readAll : List String → Except Fault (List Field)
  | [] => .ok []
  | argument :: rest =>
    match read? argument with
    | none => .error (.invalidAttribute argument)
    | some field => (readAll rest).map (field :: ·)

end InterfaceSync.Attribute
