import InterfaceSync.Proofs.Files.Directories

/-!
# Paths that lead down, and what is written there

A path that spells names and nothing else leads down from the working directory, through directories
only.  In a rooted tree it is enough that the last of them is there, because everything above a
directory is a directory.

* `IsRooted.locate_eq_ok_iff`, `IsRooted.isPresent_iff`: when such a path leads anywhere, and when it
  finds something there.
* `write_of_located`, `write_of_directory`: a file is written where no directory stands.
* `IsRooted.insert`: what is put into a directory leaves the tree rooted.
-/

namespace InterfaceSync

namespace Path

/-- A name that can be entered and leads down. -/
def LeadsDown (name : String) : Prop :=
  name ≠ "." ∧ name ≠ ".." ∧ name.utf8ByteSize ≤ 255

/-- A path that spells names, each of which leads down from the one before. -/
structure Spells (path : String) (names : List String) : Prop where
  components_eq : components path = names
  leadsDown : ∀ name ∈ names, LeadsDown name
  relative : isAbsolute path = false
  noTrailingSlash : hasTrailingSlash path = false
  nonempty : path.isEmpty = false
  noNul : path.toList.contains '\x00' = false
  short : path.utf8ByteSize < FileTree.pathLimit

instance (name : String) : Decidable (LeadsDown name) :=
  inferInstanceAs (Decidable (_ ∧ _))

instance (path : String) (names : List String) : Decidable (Spells path names) :=
  decidable_of_iff
    (components path = names ∧ (∀ name ∈ names, LeadsDown name) ∧ isAbsolute path = false ∧
      hasTrailingSlash path = false ∧ path.isEmpty = false ∧ path.toList.contains '\x00' = false ∧
      path.utf8ByteSize < FileTree.pathLimit)
    ⟨fun ⟨h₁, h₂, h₃, h₄, h₅, h₆, h₇⟩ => ⟨h₁, h₂, h₃, h₄, h₅, h₆, h₇⟩,
      fun ⟨h₁, h₂, h₃, h₄, h₅, h₆, h₇⟩ => ⟨h₁, h₂, h₃, h₄, h₅, h₆, h₇⟩⟩

end Path

namespace FileTree

variable {t : FileTree} {workingDirectory location : Location} {path : String}

/-! ## Where a path leads -/

theorem enter_of_leadsDown {directory : Location} {name : String} (hname : Path.LeadsDown name)
    (h : t.get? directory = some .directory) : t.enter directory name = .ok (directory ++ [name]) := by
  unfold enter
  rw [h]
  simp only
  rw [if_neg hname.1, if_neg hname.2.1, if_neg (Nat.not_lt.2 hname.2.2)]

/-- A path that spells names is a walk along them. -/
theorem locate_of_spells {names : List String} (h : Path.Spells path names) :
    t.locate workingDirectory path = t.walk workingDirectory names := by
  unfold locate
  rw [h.nonempty, h.noNul, h.relative, h.components_eq, h.noTrailingSlash,
    if_neg (Nat.not_le.2 h.short)]
  simp only [Bool.false_eq_true, if_false]
  cases t.walk workingDirectory names with
  | error e => rfl
  | ok l =>
    simp only
    split
    · rfl
    · rfl

theorem follow_of_leadsDown {names : List String} (h : ∀ name ∈ names, Path.LeadsDown name)
    (start : Location) : follow start names = start ++ names := by
  induction names generalizing start with
  | nil => rw [follow, List.append_nil]
  | cons name rest ih =>
    obtain ⟨hname, hrest⟩ := List.forall_mem_cons.1 h
    rw [follow, if_neg hname.1, if_neg hname.2.1, ih hrest, List.append_assoc, List.singleton_append]

theorem placeOf_of_spells {names : List String} (h : Path.Spells path names) :
    placeOf workingDirectory path = workingDirectory ++ names := by
  rw [placeOf, h.relative, if_neg Bool.false_ne_true, h.components_eq, follow_of_leadsDown h.leadsDown]

/-- A walk down goes through the directory that it starts in. -/
theorem walk_cons_eq_ok_iff {start : Location} {name : String} {rest : List String}
    (hname : Path.LeadsDown name) :
    t.walk start (name :: rest) = .ok location ↔
      t.get? start = some .directory ∧ t.walk (start ++ [name]) rest = .ok location := by
  rw [walk]
  constructor
  · intro hwalk
    split at hwalk
    · rename_i next hnext
      have hstart := (enter_eq_ok hnext).1
      rw [enter_of_leadsDown hname hstart] at hnext
      rw [Except.ok.inj hnext]
      exact ⟨hstart, hwalk⟩
    · simp at hwalk
  · rintro ⟨hstart, hwalk⟩
    rw [enter_of_leadsDown hname hstart]
    exact hwalk

/-- In a rooted tree a walk down arrives exactly if its last name is entered from a directory: that
directory says that those above it are there too. -/
theorem IsRooted.walk_eq_ok_iff (rooted : t.IsRooted) {front : List String} {name : String}
    (h : ∀ n ∈ front ++ [name], Path.LeadsDown n) {start : Location} :
    t.walk start (front ++ [name]) = .ok location ↔
      t.get? (start ++ front) = some .directory ∧ location = start ++ (front ++ [name]) := by
  induction front generalizing start with
  | nil =>
    have hname := h name (List.mem_append_right _ (List.mem_singleton_self name))
    rw [List.append_nil, List.nil_append, walk_cons_eq_ok_iff hname, walk, Except.ok.injEq,
      eq_comm (a := location)]
  | cons first front ih =>
    obtain ⟨hfirst, hrest⟩ := List.forall_mem_cons.1 h
    rw [List.cons_append, walk_cons_eq_ok_iff hfirst, List.append_cons start first front,
      List.append_cons start first (front ++ [name]), ← ih hrest]
    refine and_iff_right_of_imp fun hwalk => ?_
    have hend := ((ih hrest).1 hwalk).1
    exact rooted start first (rooted.get?_ne_none front (by rw [hend]; simp))

/-- **A path that leads down is located exactly if its last name stands in a directory.** -/
theorem IsRooted.locate_eq_ok_iff (rooted : t.IsRooted) {front : List String} {name : String}
    (h : Path.Spells path (front ++ [name])) :
    t.locate workingDirectory path = .ok location ↔
      t.get? (workingDirectory ++ front) = some .directory ∧
        location = placeOf workingDirectory path := by
  rw [locate_of_spells h, rooted.walk_eq_ok_iff h.leadsDown, placeOf_of_spells h]

/-- A name is located exactly if there is a working directory. -/
theorem IsRooted.locate_name_iff (rooted : t.IsRooted) {name : String}
    (h : Path.Spells path [name]) :
    t.locate workingDirectory path = .ok location ↔
      t.get? workingDirectory = some .directory ∧ location = placeOf workingDirectory path := by
  rw [← List.nil_append [name]] at h
  rw [rooted.locate_eq_ok_iff h, List.append_nil]

/-- **Such a path finds something exactly if something stands there.** -/
theorem IsRooted.isPresent_iff (rooted : t.IsRooted) {front : List String} {name : String}
    (h : Path.Spells path (front ++ [name])) :
    t.isPresent workingDirectory path = true ↔ t.get? (placeOf workingDirectory path) ≠ none := by
  have hok : t.isPresent workingDirectory path = true ↔
      ∃ e, t.stat workingDirectory path = .ok e := by
    rw [isPresent]
    cases t.stat workingDirectory path with
    | ok e => simp [Except.isOk, Except.toBool]
    | error e => simp [Except.isOk, Except.toBool]
  rw [hok, Option.ne_none_iff_exists']
  refine exists_congr fun e => ?_
  rw [stat_eq_ok_iff]
  constructor
  · rintro ⟨l, hlocate, hget⟩
    rwa [← locate_eq_ok_placeOf hlocate]
  · intro hget
    have hdirectory : t.get? (workingDirectory ++ front) = some .directory := by
      refine rooted _ name ?_
      rw [List.append_assoc, ← placeOf_of_spells h, hget]
      simp
    exact ⟨_, (rooted.locate_eq_ok_iff h).2 ⟨hdirectory, rfl⟩, hget⟩

/-! ## Writing a file -/

/-- The permission bits of a file that is written at a location. -/
def writtenMode (t : FileTree) (location : Location) : Nat :=
  match t.get? location with
  | some (.file _ mode) => mode
  | _ => newFileMode

theorem writtenMode_of_file {bytes : ByteArray} {mode : Nat}
    (h : t.get? location = some (.file bytes mode)) : t.writtenMode location = mode := by
  rw [writtenMode, h]

theorem write_of_located (hlocate : t.locate workingDirectory path = .ok location)
    (hget : t.get? location ≠ some .directory) (hslash : Path.hasTrailingSlash path = false)
    (bytes : ByteArray) :
    t.write workingDirectory path bytes =
      .ok (t.insert location (.file bytes (t.writtenMode location))) := by
  rw [write, hlocate]
  simp only
  split
  · rename_i hdirectory
    exact absurd hdirectory hget
  · rename_i hfile
    rw [writtenMode_of_file hfile]
  · rename_i hnone
    rw [hslash, if_neg Bool.false_ne_true, writtenMode, hnone]

theorem write_of_directory (hlocate : t.locate workingDirectory path = .ok location)
    (hget : t.get? location = some .directory) (bytes : ByteArray) :
    t.write workingDirectory path bytes = .error .isADirectory := by
  rw [write, hlocate]
  simp only [hget]

theorem write_of_not_located {e : FileError} (hlocate : t.locate workingDirectory path = .error e)
    (bytes : ByteArray) : t.write workingDirectory path bytes = .error e := by
  rw [write, hlocate]

/-! ## Trees that stay rooted -/

/-- **What is put into a directory leaves the tree rooted**, unless a file takes the place of another
directory. -/
theorem IsRooted.insert (rooted : t.IsRooted) {name : String} {e : FileEntry}
    (hparent : t.get? location = some .directory)
    (he : e = .directory ∨ t.get? (location ++ [name]) ≠ some .directory) :
    (t.insert (location ++ [name]) e).IsRooted := by
  have hne : location ++ [name] ≠ [] := by simp
  intro l inner hinner
  rw [get?_insert hne] at hinner ⊢
  by_cases hplace : l ++ [inner] = location ++ [name]
  · obtain ⟨rfl, -⟩ := List.append_inj' hplace rfl
    rw [if_neg (by simp), hparent]
  · rw [if_neg hplace] at hinner
    have hl := rooted l inner hinner
    by_cases hhere : l = location ++ [name]
    · rw [if_pos hhere]
      rcases he with rfl | he
      · rfl
      · exact absurd (hhere ▸ hl) he
    · rw [if_neg hhere, hl]

/-- A tree is rooted if each of its entries stands in a directory. -/
theorem isRooted_of_forall_entries
    (h : ∀ e ∈ t.entries, t.get? e.1.dropLast = some .directory) : t.IsRooted := by
  intro l name hget
  have htaken : t.isTaken (l ++ [name]) = true := Option.isSome_iff_ne_none.2 hget
  obtain ⟨e, he, hplace⟩ := List.mem_map.1 (mem_entries_of_isTaken (by simp) htaken)
  have hparent := h e he
  rwa [hplace, List.dropLast_concat] at hparent

end FileTree
end InterfaceSync
