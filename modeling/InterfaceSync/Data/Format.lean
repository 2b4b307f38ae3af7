import InterfaceSync.Data.Datum

/-!
# Reading structures out of data

A structure of the domain may be written as a record, by its keys, or as a list, by position.  Either
way some of its parts may be left out, and then the structure says what they are.  A record may have
further keys, which nobody reads; a key of the structure that is given twice makes it unreadable, and
two names for one part count as one key.

The formats differ in two points, which make up a `DataFormat`.
-/

namespace InterfaceSync

/-- What is particular to a format: what may stand behind the name of a kind when that is written as a
record of one entry, and whether a list may have more items than the structure has parts. -/
structure DataFormat where
  standsForNothing : Datum → Bool
  allowsSurplus : Bool

namespace DataFormat

/-- In JSON nothing is written `null`, and a list must fit. -/
def json : DataFormat where
  standsForNothing
    | .null => true
    | _ => false
  allowsSurplus := false

/-- In TOML nothing is written as a table or an array without entries, and a list may go on. -/
def toml : DataFormat where
  standsForNothing
    | .record [] => true
    | .list [] => true
    | _ => false
  allowsSurplus := true

end DataFormat

namespace Datum

/-- The values that a record has under any of the names of a part. -/
def valuesUnder (names : List String) (entries : List (String × Datum)) : List Datum :=
  (entries.filter fun entry => names.contains entry.1).map (·.2)

/-- The value of a part of a record; `none` if it is given twice, `some none` if it is left out. -/
def part? (names : List String) (entries : List (String × Datum)) : Option (Option Datum) :=
  match valuesUnder names entries with
  | [] => some none
  | [d] => some (some d)
  | _ => none

/-- The values that a datum gives to the parts of a structure, each of which has one or more names. -/
def parts? (format : DataFormat) (structureNames : List (List String)) (d : Datum) :
    Option (List (Option Datum)) :=
  match d with
  | .record entries => structureNames.mapM fun names => part? names entries
  | .list items =>
    if items.length ≤ structureNames.length ∨ format.allowsSurplus = true then
      some ((List.range structureNames.length).map fun i => items[i]?)
    else none
  | _ => none

/-- A text. -/
def asText? : Datum → Option String
  | .text s => some s
  | _ => none

/-- A truth value. -/
def asBool? : Datum → Option Bool
  | .bool b => some b
  | _ => none

/-- A list whose items are all readable. -/
def asList? {α : Type} (item? : Datum → Option α) : Datum → Option (List α)
  | .list items => items.mapM item?
  | _ => none

/-- Something that may be `null`. -/
def asOption? {α : Type} (some? : Datum → Option α) : Datum → Option (Option α)
  | .null => some none
  | d => (some? d).map some

/-- The name of a kind, written as a text or as a record of one entry with nothing behind the name. -/
def asKindName? (format : DataFormat) : Datum → Option String
  | .text s => some s
  | .record [(name, d)] => if format.standsForNothing d then some name else none
  | _ => none

/-- A part of a structure, with a value for when it is left out. -/
def orElse {α : Type} (read? : Datum → Option α) (default : α) : Option Datum → Option α
  | some d => read? d
  | none => some default

end Datum
end InterfaceSync
