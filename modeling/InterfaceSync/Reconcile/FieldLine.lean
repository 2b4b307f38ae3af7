import InterfaceSync.Text.Blank
import InterfaceSync.Text.WordChar

/-!
# Lines that declare a field

Inside a block a line declares a field if it consists of white space, a name, perhaps a question mark,
a colon, and anything behind the colon.  The question mark says that the field is optional.  Setting
it is all that is ever done to a line.
-/

namespace InterfaceSync

open Text

/-- A line that declares a field, in its parts; `rest` begins with the colon. -/
structure FieldLine where
  indent : List Char
  name : List Char
  optional : Bool
  rest : List Char
  deriving DecidableEq, Repr

namespace FieldLine

/-- The characters the name of a field may begin with. -/
def isNameStart (c : Char) : Bool := c.isAlpha || c == '_' || c == '$'

/-- The characters of the name of a field. -/
def isNameChar (c : Char) : Bool := isWordChar c || c == '$'

/-- The text of a line. -/
def text (l : FieldLine) : List Char :=
  l.indent ++ l.name ++ (if l.optional then ['?'] else []) ++ l.rest

/-- The mark of an optional field and the colon behind a name. -/
def readMark? (text : List Char) : Option (Bool × List Char) :=
  match text with
  | '?' :: ':' :: rest => some (true, ':' :: rest)
  | ':' :: rest => some (false, ':' :: rest)
  | _ => none

/-- Reads the body of a line. -/
def read? (body : List Char) : Option FieldLine :=
  let indent := body.takeWhile isBlank
  match body.dropWhile isBlank with
  | [] => none
  | c :: rest =>
    if isNameStart c then
      (readMark? (rest.dropWhile isNameChar)).map fun mark =>
        { indent := indent
          name := c :: rest.takeWhile isNameChar
          optional := mark.1
          rest := mark.2 }
    else none

theorem eq_of_readMark? {text rest : List Char} {optional : Bool}
    (h : readMark? text = some (optional, rest)) :
    text = (if optional then ['?'] else []) ++ rest := by
  unfold readMark? at h
  split at h <;> simp_all

/-- A line that is read is put together again from its parts. -/
theorem text_of_read? {body : List Char} {l : FieldLine} (h : read? body = some l) :
    l.text = body := by
  unfold read? at h
  have hbody := List.takeWhile_append_dropWhile (p := isBlank) (l := body)
  cases hdrop : body.dropWhile isBlank with
  | nil => simp [hdrop] at h
  | cons c rest =>
    rw [hdrop] at hbody
    simp only [hdrop] at h
    split at h
    · obtain ⟨mark, hmark, rfl⟩ := Option.map_eq_some_iff.1 h
      have hrest := List.takeWhile_append_dropWhile (p := isNameChar) (l := rest)
      rw [eq_of_readMark? hmark] at hrest
      simp only [text, List.append_assoc, List.cons_append]
      rw [hrest, hbody]
    · simp at h

/-- The body of a line with its question mark put right: a mark that is not wanted is removed, and one
that is missing is set.  A line with the mark that it should have is not rewritten, and neither is a line
that declares no field. -/
def rewrite? (required : List String) (body : List Char) : Option (List Char) :=
  match read? body with
  | none => none
  | some l =>
    match required.contains (String.ofList l.name), l.optional with
    | true, true => some (text { l with optional := false })
    | false, false => some (text { l with optional := true })
    | _, _ => none

/-- The body of a line once the required fields are known. -/
def settle (required : List String) (body : List Char) : List Char :=
  (rewrite? required body).getD body

theorem settle_of_read?_eq_none {required : List String} {body : List Char}
    (h : read? body = none) : settle required body = body := by
  rw [settle, rewrite?, h]
  rfl

end FieldLine
end InterfaceSync
