import InterfaceSync.Files.FileTree
import Mathlib.Data.List.Induction
import Mathlib.Data.List.Nodup
import Mathlib.Data.List.Perm.Subperm

/-!
# Paths and trees that grow

A path is followed through directories only, so what it leads to stays the same in every tree that has
these directories.  Making directories is the only way in which a tree grows here: nothing that was
there is touched, and what is new is a directory.

* `follow`, `walk_eq_ok`: a walk that arrives does so at the place that its names spell.
* `walk_of_directories`, `locate_of_directories`: it arrives there in every tree with the directories.
* `IsRooted.walk_ne_notFound`: a walk that does not go up misses nothing on the way to what is there.
* `Grows`, `grows_makeDirectories`: making directories adds directories and changes nothing.
* `get?_freeName`: the name for a temporary file is free.
-/

namespace InterfaceSync
namespace FileTree

/-! ## Places -/

/-- The location that names spell, starting at a location, whatever stands on the way. -/
def follow (start : Location) : List String → Location
  | [] => start
  | name :: rest =>
    follow (if name = "." then start else if name = ".." then start.dropLast else start ++ [name]) rest

/-- The location that a path spells, seen from a working directory. -/
def placeOf (workingDirectory : Location) (path : String) : Location :=
  follow (if Path.isAbsolute path then [] else workingDirectory) (Path.components path)

theorem get?_root (t : FileTree) : t.get? [] = some .directory := rfl

theorem ne_root_of_get?_eq_none {t : FileTree} {l : Location} (h : t.get? l = none) : l ≠ [] := by
  rintro rfl
  simp [get?_root] at h

/-- What stands where a name is entered is a directory, and the name says where that leads. -/
theorem enter_eq_ok {t : FileTree} {directory location : Location} {name : String}
    (h : t.enter directory name = .ok location) :
    t.get? directory = some .directory ∧
      location = if name = "." then directory
        else if name = ".." then directory.dropLast else directory ++ [name] := by
  unfold enter at h
  split at h
  · simp at h
  · simp at h
  · rename_i hget
    refine ⟨hget, ?_⟩
    split_ifs at h ⊢ <;> simp_all

theorem enter_of_directory {t u : FileTree} {directory location : Location} {name : String}
    (h : t.enter directory name = .ok location) (hu : u.get? directory = some .directory) :
    u.enter directory name = .ok location := by
  have ht := (enter_eq_ok h).1
  unfold enter at h ⊢
  rw [ht] at h
  rw [hu]
  exact h

/-- A walk that arrives does so at the place that its names spell. -/
theorem walk_eq_ok {t : FileTree} {start location : Location} {names : List String}
    (h : t.walk start names = .ok location) : location = follow start names := by
  induction names generalizing start with
  | nil => exact (Except.ok.inj h).symm
  | cons name rest ih =>
    rw [walk] at h
    split at h
    · rename_i next hnext
      rw [ih h, follow, (enter_eq_ok hnext).2]
    · simp at h

/-- A walk arrives in every tree that has the directories. -/
theorem walk_of_directories {t u : FileTree} {start location : Location} {names : List String}
    (directories : ∀ l, t.get? l = some .directory → u.get? l = some .directory)
    (h : t.walk start names = .ok location) : u.walk start names = .ok location := by
  induction names generalizing start with
  | nil => exact h
  | cons name rest ih =>
    rw [walk] at h ⊢
    split at h
    · rename_i next hnext
      rw [enter_of_directory hnext (directories _ (enter_eq_ok hnext).1)]
      exact ih h
    · simp at h

/-- A path that is located is walked along, and does not end with a slash if a file stands there. -/
theorem locate_eq_ok {t : FileTree} {workingDirectory location : Location} {path : String}
    (h : t.locate workingDirectory path = .ok location) :
    t.walk (if Path.isAbsolute path then [] else workingDirectory) (Path.components path) =
        .ok location ∧
      (∀ bytes mode, t.get? location = some (.file bytes mode) → Path.hasTrailingSlash path = false) := by
  unfold locate at h
  split at h
  · simp at h
  split at h
  · simp at h
  split at h
  · simp at h
  split at h
  · simp at h
  rename_i found hwalk
  split at h
  · split at h
    · simp at h
    · rename_i hslash
      obtain rfl := Except.ok.inj h
      exact ⟨hwalk, fun _ _ _ => by simpa using hslash⟩
  · rename_i hget
    obtain rfl := Except.ok.inj h
    exact ⟨hwalk, fun bytes mode hfile => absurd hfile (hget bytes mode)⟩

/-- A path is located at the place that it spells. -/
theorem locate_eq_ok_placeOf {t : FileTree} {workingDirectory location : Location} {path : String}
    (h : t.locate workingDirectory path = .ok location) :
    location = placeOf workingDirectory path :=
  walk_eq_ok (locate_eq_ok h).1

/-- A path is located in every tree that has the directories, if it may lead to what stands there. -/
theorem locate_of_directories {t u : FileTree} {workingDirectory location : Location} {path : String}
    (directories : ∀ l, t.get? l = some .directory → u.get? l = some .directory)
    (h : t.locate workingDirectory path = .ok location)
    (slash : ∀ bytes mode, u.get? location = some (.file bytes mode) →
      Path.hasTrailingSlash path = false) :
    u.locate workingDirectory path = .ok location := by
  have hwalk := walk_of_directories directories (locate_eq_ok h).1
  unfold locate at h ⊢
  split at h
  · simp at h
  rename_i hempty
  split at h
  · simp at h
  rename_i hnul
  split at h
  · simp at h
  rename_i hlength
  rw [if_neg hempty, if_neg hnul, if_neg hlength, hwalk]
  simp only
  split
  · rename_i hget
    rw [slash _ _ hget]
    rfl
  · rfl

/-! ## Rooted trees -/

/-- What stands somewhere stands in a directory. -/
def IsRooted (t : FileTree) : Prop :=
  ∀ l name, t.get? (l ++ [name]) ≠ none → t.get? l = some .directory

/-- Something stands everywhere on the way to what stands somewhere. -/
theorem IsRooted.get?_ne_none {t : FileTree} (h : t.IsRooted) {l : Location} (more : Location)
    (hmore : t.get? (l ++ more) ≠ none) : t.get? l ≠ none := by
  induction more using List.reverseRecOn with
  | nil => rwa [List.append_nil] at hmore
  | append_singleton front name ih =>
    rw [← List.append_assoc] at hmore
    refine ih ?_
    rw [h _ name hmore]
    simp

theorem prefix_follow {names : List String} (hup : ".." ∉ names) (start : Location) :
    start <+: follow start names := by
  induction names generalizing start with
  | nil => exact List.prefix_refl start
  | cons name rest ih =>
    rw [List.mem_cons, not_or] at hup
    rw [follow, if_neg (Ne.symm hup.1)]
    split
    · exact ih hup.2 start
    · exact (List.prefix_append start [name]).trans (ih hup.2 _)

/-- **In a rooted tree nothing is missed on the way to what stands somewhere**, if the way does not go
up. -/
theorem IsRooted.walk_ne_notFound {t : FileTree} (h : t.IsRooted) {names : List String}
    (hup : ".." ∉ names) {start : Location} (hend : t.get? (follow start names) ≠ none) :
    t.walk start names ≠ .error .notFound := by
  induction names generalizing start with
  | nil => simp [walk]
  | cons name rest ih =>
    have hstart : t.get? start ≠ none := by
      obtain ⟨more, hmore⟩ := prefix_follow hup start
      exact h.get?_ne_none more (by rwa [hmore])
    rw [List.mem_cons, not_or] at hup
    rw [walk]
    cases henter : t.enter start name with
    | ok next =>
      rw [follow, ← (enter_eq_ok henter).2] at hend
      exact ih hup.2 hend
    | error e =>
      unfold enter at henter
      split at henter
      · rename_i hnone
        exact absurd hnone hstart
      · rw [← Except.error.inj henter]
        simp
      · split_ifs at henter
        rw [← Except.error.inj henter]
        simp

/-- A file that stands where a path leads without going up is not reported as missing. -/
theorem IsRooted.read_ne_notFound {t : FileTree} (h : t.IsRooted) {workingDirectory : Location}
    {path : String} (hup : ".." ∉ Path.components path) (hne : path.isEmpty = false)
    (hend : t.get? (placeOf workingDirectory path) ≠ none) :
    t.read workingDirectory path ≠ .error .notFound := by
  have hlocate : t.locate workingDirectory path ≠ .error .notFound := by
    unfold locate
    rw [hne, if_neg Bool.false_ne_true]
    split
    · simp
    split
    · simp
    split
    · rename_i e hwalk
      intro he
      exact h.walk_ne_notFound hup hend (hwalk.trans he)
    · split
      · split
        · simp
        · simp
      · simp
  unfold read stat
  cases hplace : t.locate workingDirectory path with
  | error e =>
    simp only [ne_eq, Except.error.injEq]
    rintro rfl
    exact hlocate hplace
  | ok location =>
    rw [locate_eq_ok_placeOf hplace]
    cases hget : t.get? (placeOf workingDirectory path) with
    | none => exact absurd hget hend
    | some e =>
      cases e with
      | file bytes mode => simp [hget]
      | directory => simp [hget]

/-! ## Growth -/

/-- Nothing is touched, and what is new is a directory. -/
def Grows (t u : FileTree) : Prop :=
  ∀ l, u.get? l = t.get? l ∨ (t.get? l = none ∧ u.get? l = some .directory)

namespace Grows

variable {t u v : FileTree}

theorem refl (t : FileTree) : Grows t t := fun _ => .inl rfl

theorem trans (h : Grows t u) (h' : Grows u v) : Grows t v := by
  intro l
  rcases h' l with h' | ⟨hnone, h'⟩
  · rcases h l with h | ⟨hnone, h⟩
    · exact .inl (h'.trans h)
    · exact .inr ⟨hnone, h'.trans h⟩
  · rcases h l with h | ⟨-, h⟩
    · exact .inr ⟨h ▸ hnone, h'⟩
    · rw [h] at hnone
      simp at hnone

/-- What stands somewhere stays there. -/
theorem get?_eq_some (h : Grows t u) {l : Location} {e : FileEntry} (hl : t.get? l = some e) :
    u.get? l = some e := by
  rcases h l with h | ⟨hnone, -⟩
  · exact h.trans hl
  · rw [hnone] at hl
    simp at hl

/-- No file is new. -/
theorem get?_eq_file (h : Grows t u) {l : Location} {bytes : ByteArray} {mode : Nat}
    (hl : u.get? l = some (.file bytes mode)) : t.get? l = some (.file bytes mode) := by
  rcases h l with h | ⟨-, h⟩
  · exact h ▸ hl
  · rw [h] at hl
    simp at hl

/-- A path to a file leads to it still. -/
theorem locate_eq_ok (h : Grows t u) {workingDirectory location : Location} {path : String}
    (hl : t.locate workingDirectory path = .ok location) {bytes : ByteArray} {mode : Nat}
    (hfile : t.get? location = some (.file bytes mode)) :
    u.locate workingDirectory path = .ok location :=
  locate_of_directories (fun _ => h.get?_eq_some) hl
    fun _ _ _ => (FileTree.locate_eq_ok hl).2 bytes mode hfile

end Grows

/-- A directory put where nothing stood is growth. -/
theorem grows_insert_directory {t : FileTree} {location : Location} (h : t.get? location = none) :
    Grows t (t.insert location .directory) := by
  intro l
  rw [get?_insert (ne_root_of_get?_eq_none h)]
  by_cases hl : l = location
  · rw [if_pos hl, hl]
    exact .inr ⟨h, rfl⟩
  · rw [if_neg hl]
    exact .inl rfl

theorem grows_makeDirectory {t u : FileTree} {workingDirectory : Location} {path : String}
    (h : t.makeDirectory workingDirectory path = .ok u) : Grows t u := by
  unfold makeDirectory at h
  split at h
  · simp at h
  · split at h
    · simp at h
    · rename_i hget
      rw [← Except.ok.inj h]
      exact grows_insert_directory hget

theorem grows_makeDirectoriesAlong (workingDirectory : Location) (t : FileTree)
    (paths : List String) : Grows t (makeDirectoriesAlong workingDirectory t paths).2 := by
  induction paths with
  | nil => exact .refl t
  | cons path parents ih =>
    rw [makeDirectoriesAlong]
    split
    · exact .refl t
    split
    · rename_i hmade
      exact grows_makeDirectory hmade
    · split
      · rename_i hparents
        rw [hparents] at ih
        exact ih
      · rename_i hparents
        rw [hparents] at ih
        split
        · rename_i hmade
          exact ih.trans (grows_makeDirectory hmade)
        · exact ih
    · exact .refl t

/-- **Making directories adds directories and changes nothing**, also when it fails. -/
theorem grows_makeDirectories (t : FileTree) (workingDirectory : Location) (path : String) :
    Grows t (t.makeDirectories workingDirectory path).2 :=
  grows_makeDirectoriesAlong workingDirectory t (Path.ancestors path)

/-! ## Free names -/

theorem temporaryName_injective : Function.Injective temporaryName := by
  intro m n h
  have hrepr : Nat.repr m = Nat.repr n := (String.append_right_inj ".tmp").1 h
  rw [← Nat.ofDigitChars_ten_toDigits (n := m), ← Nat.ofDigitChars_ten_toDigits (n := n),
    ← Nat.toList_repr, hrepr, Nat.toList_repr]

theorem mem_entries_of_isTaken {t : FileTree} {location : Location} (hne : location ≠ [])
    (h : t.isTaken location = true) : location ∈ t.entries.map Prod.fst := by
  rw [isTaken, get?, if_neg hne, List.lookup_isSome_iff] at h
  obtain ⟨e, he, heq⟩ := h
  rw [eq_of_beq heq]
  exact List.mem_map_of_mem he

/-- If the name that was found is taken, so are all the names that were tried. -/
theorem isTaken_of_isTaken_freeNameFrom {t : FileTree} {directory : Location} {n count : ℕ}
    (h : t.isTaken (directory ++ [t.freeNameFrom directory n count]) = true) :
    ∀ k ≤ count, t.isTaken (directory ++ [temporaryName (n + k)]) = true := by
  induction count generalizing n with
  | zero =>
    intro k hk
    obtain rfl := Nat.le_zero.1 hk
    exact h
  | succ count ih =>
    rw [freeNameFrom] at h
    split at h
    · rename_i htaken
      intro k hk
      cases k with
      | zero => exact htaken
      | succ k =>
        rw [← Nat.add_assoc, Nat.add_right_comm]
        exact ih h k (by omega)
    · rename_i htaken
      exact absurd h htaken

/-- **The name for a temporary file is free.**  There is one more name to try than there are entries. -/
theorem isTaken_freeName (t : FileTree) (directory : Location) :
    t.isTaken (directory ++ [t.freeName directory]) = false := by
  by_contra h
  rw [Bool.not_eq_false] at h
  have htaken := isTaken_of_isTaken_freeNameFrom h
  let tried := (List.range (t.entries.length + 1)).map fun k => directory ++ [temporaryName k]
  have hnodup : tried.Nodup := by
    refine List.Nodup.map (fun m n hmn => ?_) List.nodup_range
    exact temporaryName_injective (by simpa using hmn)
  have hsubset : tried ⊆ t.entries.map Prod.fst := by
    intro location hlocation
    obtain ⟨k, hk, rfl⟩ := List.mem_map.1 hlocation
    have hk' := htaken k (Nat.lt_succ_iff.1 (List.mem_range.1 hk))
    rw [Nat.zero_add] at hk'
    exact mem_entries_of_isTaken (by simp) hk'
  have hlength := (List.subperm_of_subset hnodup hsubset).length_le
  simp only [tried, List.length_map, List.length_range] at hlength
  omega

theorem get?_freeName (t : FileTree) (directory : Location) :
    t.get? (directory ++ [t.freeName directory]) = none := by
  have h := isTaken_freeName t directory
  rwa [isTaken, Option.isSome_eq_false_iff, Option.isNone_iff_eq_none] at h

end FileTree
end InterfaceSync
