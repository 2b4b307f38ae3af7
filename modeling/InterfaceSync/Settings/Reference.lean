import InterfaceSync.Environment
import InterfaceSync.Text.Replace

/-!
# References to environment variables

A path in the settings may refer to an environment variable as `$\x7bNAME\x7d`, or with a value for
when the variable is not set, as `$\x7bNAME:-value\x7d`.  A name is any text without a closing brace and
without a colon, and is not empty; a value is any text without a closing brace.  References are found
from left to right and do not overlap.

They are filled in one after the other.  For each one, all pieces of the text so far that are spelled
like it are replaced, wherever they came from.  So a value that is filled in is looked at again by the
references behind it.
-/

namespace InterfaceSync

/-- A reference to an environment variable. -/
structure Reference where
  name : List Char
  default : Option (List Char)
  deriving DecidableEq, Repr

namespace Reference

/-- How a reference is written. -/
def text (r : Reference) : List Char :=
  ['$', '\x7b'] ++ r.name ++ (r.default.elim [] fun d => [':', '-'] ++ d) ++ ['\x7d']

/-- The characters of a name. -/
def isNameChar (c : Char) : Bool := c != '\x7d' && c != ':'

/-- The characters of a value for when the variable is not set. -/
def isDefaultChar (c : Char) : Bool := c != '\x7d'

/-- Reads a reference behind its opening brace. -/
def read? (rest : List Char) : Option Reference :=
  let name := rest.takeWhile isNameChar
  if name.isEmpty then none
  else
    match rest.dropWhile isNameChar with
    | '\x7d' :: _ => some ⟨name, none⟩
    | ':' :: '-' :: behind =>
      match behind.dropWhile isDefaultChar with
      | '\x7d' :: _ => some ⟨name, some (behind.takeWhile isDefaultChar)⟩
      | _ => none
    | _ => none

/-- The reference at the very front of a text. -/
def atFront? : List Char → Option Reference
  | '$' :: '\x7b' :: behind => read? behind
  | _ => none

/-- The references in a text, from left to right. -/
def all : List Char → List Reference
  | [] => []
  | c :: rest =>
    match atFront? (c :: rest) with
    | some r => r :: all (rest.drop (r.text.length - 1))
    | none => all rest
  termination_by text => text.length
  decreasing_by
    · simp only [List.length_drop, List.length_cons]
      omega
    · simp

/-- What a reference stands for: the value of its variable, or else the one it gives itself. -/
def value? (env : Environment) (r : Reference) : Option (List Char) :=
  match env.get? (String.ofList r.name) with
  | some value => some value.toList
  | none => r.default

/-- Fills references into a text, one after the other; the failure is a reference that stands for
nothing. -/
def fill (env : Environment) : List Reference → List Char → Except Reference (List Char)
  | [], text => .ok text
  | r :: rest, text =>
    match r.value? env with
    | some value => fill env rest (Text.replaceAll r.text value text)
    | none => .error r

/-- A text with its references filled in. -/
def substitute (env : Environment) (text : List Char) : Except Reference (List Char) :=
  fill env (all text) text

end Reference
end InterfaceSync
