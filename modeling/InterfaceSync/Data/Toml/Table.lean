import InterfaceSync.Data.Datum

/-!
# Tables of TOML while they are being put together

A document names its tables in headings and in dotted keys, in almost any order, so a table may exist
before it is written down: the heading `[a.b]` implies a table `a`.  What is still allowed to happen
to a table depends on how it came to be.  A table that a heading wrote down may not be written down
again, one that was only implied may, and one that dotted keys made or went through may grow by dotted
keys alone and by headings of tables below it.

`Entries.assign` carries out a line `key = value`, `Entries.openTable` and `Entries.openTables` carry
out the two kinds of headings; each fails if it would write something down twice.  All of them rest on
`Entries.alter`, and `lookup_alter` says that it changes what one key stands for and nothing else.
-/

namespace InterfaceSync.Toml

/-- How a table came to be. -/
inductive Origin where
  | headed
  | implied
  | dotted
  deriving DecidableEq, Repr

/-- What a key stands for so far.  A value is finished; so is an array or a table that was written on
one line.  Of several tables under one heading the latest one is at the front and the earlier ones
follow, last one first. -/
inductive Node where
  | value (d : Datum)
  | table (origin : Origin) (entries : List (String × Node))
  | tables (latest : List (String × Node)) (earlier : List (List (String × Node)))

/-- The entries of a table, in the order in which they were first named. -/
abbrev Entries := List (String × Node)

namespace Entries

/-- Changes what a key stands for; the change is given `none` if the key is new, and answers `none` if
it fails. -/
def alter (key : String) (change : Option Node → Option Node) : Entries → Option Entries
  | [] => (change none).map fun n => [(key, n)]
  | (k, n) :: rest =>
    if k = key then (change (some n)).map fun n => (k, n) :: rest
    else (alter key change rest).map ((k, n) :: ·)

/-- After a change its key stands for what the change answered, and every other key for what it stood
for. -/
theorem lookup_alter {key k : String} {change : Option Node → Option Node} {entries result : Entries}
    (h : alter key change entries = some result) :
    result.lookup k = if k = key then change (entries.lookup key) else entries.lookup k := by
  induction entries generalizing result with
  | nil =>
    obtain ⟨n, hn, rfl⟩ := Option.map_eq_some_iff.1 h
    by_cases hk : k = key
    · simp [hk, hn]
    · have hne : (k == key) = false := by simpa using hk
      simp [hk, hne, List.lookup_cons]
  | cons e rest ih =>
    obtain ⟨j, n⟩ := e
    by_cases hj : j = key
    · subst hj
      simp only [alter, if_true] at h
      obtain ⟨m, hm, rfl⟩ := Option.map_eq_some_iff.1 h
      by_cases hk : k = j
      · simp [hk, hm]
      · have hne : (k == j) = false := by simpa using hk
        simp [hk, hne, List.lookup_cons]
    · simp only [alter, hj, if_false] at h
      obtain ⟨tail, htail, rfl⟩ := Option.map_eq_some_iff.1 h
      have hkey : (key == j) = false := by simpa using Ne.symm hj
      by_cases hk : k = j
      · subst hk
        simp [hj]
      · have hne : (k == j) = false := by simpa using hk
        simp only [List.lookup_cons, hne, hkey]
        exact ih htail

/-- Changes the entries of the table that a path leads to.  Tables on the way that are not there are
implied; among several tables under one heading the way goes through the latest. -/
def within (change : Entries → Option Entries) : List String → Entries → Option Entries
  | [], entries => change entries
  | key :: path, entries =>
    entries.alter key fun
      | none => (within change path []).map (.table .implied)
      | some (.table origin inner) => (within change path inner).map (.table origin)
      | some (.tables latest earlier) => (within change path latest).map (.tables · earlier)
      | some (.value _) => none

/-- Gives a value to a key below a path of dotted keys.  On the way no table may have been written down
by a heading of its own, and the key may not be put into the latest of several tables.  From then on
every table on the way counts as one that dotted keys made. -/
def assign (key : String) (d : Datum) : List String → Entries → Option Entries
  | [], entries =>
    entries.alter key fun
      | none => some (.value d)
      | some _ => none
  | first :: path, entries =>
    entries.alter first fun
      | none => (assign key d path []).map (.table .dotted)
      | some (.table .dotted inner) | some (.table .implied inner) =>
        (assign key d path inner).map (.table .dotted)
      | some (.tables latest earlier) =>
        if path.isEmpty then none else (assign key d path latest).map (.tables · earlier)
      | some (.table .headed _) | some (.value _) => none

/-- Writes down the table under a heading. -/
def openTable (key : String) (path : List String) (entries : Entries) : Option Entries :=
  within (fun inner =>
    alter key (fun
      | none => some (.table .headed [])
      | some (.table .implied inner) => some (.table .headed inner)
      | some _ => none) inner) path entries

/-- Writes down one more of several tables under a heading. -/
def openTables (key : String) (path : List String) (entries : Entries) : Option Entries :=
  within (fun inner =>
    alter key (fun
      | none => some (.tables [] [])
      | some (.tables latest earlier) => some (.tables [] (latest :: earlier))
      | some _ => none) inner) path entries

end Entries

mutual

/-- The data that a node stands for. -/
def Node.datum : Node → Datum
  | .value d => d
  | .table _ entries => .record (entryData entries)
  | .tables latest earlier => .list ((tableData earlier).reverse ++ [.record (entryData latest)])

/-- The entries of a table as data. -/
def entryData : List (String × Node) → List (String × Datum)
  | [] => []
  | (key, n) :: rest => (key, n.datum) :: entryData rest

/-- Tables as data. -/
def tableData : List (List (String × Node)) → List Datum
  | [] => []
  | entries :: rest => .record (entryData entries) :: tableData rest

end

/-- A table as data. -/
def Entries.datum (entries : Entries) : Datum := .record (entryData entries)

end InterfaceSync.Toml
