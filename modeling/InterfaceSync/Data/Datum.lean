/-!
# Documents as trees of data

Manifests and settings are written in JSON or in TOML.  Both are read into one kind of tree, and the
domain types are decoded from the tree, so that what a manifest means does not depend on how it was
written down.

A record keeps its entries in the order of the document, and keeps an entry that repeats a key: that
a key is given twice is for the decoder to judge.  Numbers keep their spelling, since nothing here
calculates with them.
-/

namespace InterfaceSync

/-- A tree of data. -/
inductive Datum where
  | null
  | bool (value : Bool)
  | number (spelling : String)
  | text (value : String)
  | list (items : List Datum)
  | record (entries : List (String × Datum))
  /-- Well formed and yet without a meaning: a text with half a surrogate pair in it, or a record with
  such a text for a key.  It may stand where nobody looks and cannot be decoded. -/
  | meaningless
  deriving Inhabited

namespace Datum

/-- A whole number. -/
def ofNat (n : Nat) : Datum := .number (toString n)

/-- An optional text; `null` when there is none. -/
def ofText? : Option String → Datum
  | some s => .text s
  | none => .null

/-- A list of texts. -/
def ofTexts (items : List String) : Datum := .list (items.map .text)

/-- What a record has under a key; the first of several entries counts. -/
def get? (d : Datum) (key : String) : Option Datum :=
  match d with
  | .record entries => entries.lookup key
  | _ => none

/-- Puts an entry in front of the first one with a greater key. -/
def insertEntry (entry : String × Datum) : List (String × Datum) → List (String × Datum)
  | [] => [entry]
  | first :: rest =>
    if entry.1 < first.1 then entry :: first :: rest else first :: insertEntry entry rest

mutual

/-- The same data with the entries of every record in the order of their keys. -/
def sortKeys : Datum → Datum
  | .list items => .list (sortKeysList items)
  | .record entries => .record (sortKeysEntries entries)
  | d => d

/-- `sortKeys` on the items of a list. -/
def sortKeysList : List Datum → List Datum
  | [] => []
  | d :: rest => sortKeys d :: sortKeysList rest

/-- `sortKeys` on the values of a record, and the entries sorted. -/
def sortKeysEntries : List (String × Datum) → List (String × Datum)
  | [] => []
  | (key, d) :: rest => insertEntry (key, sortKeys d) (sortKeysEntries rest)

end

end Datum
end InterfaceSync
