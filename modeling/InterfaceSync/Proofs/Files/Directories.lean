import InterfaceSync.Proofs.Files.Growth

/-!
# What making directories makes

Directories are made along a path from below: the path is tried first, and if something is missing, the
paths above it are made before it is tried again.

* `new_of_makeDirectories`: what is new stands where the path, or a path above it, leads.
* `isDirectory_of_makeDirectories`: once they are made, a directory stands at the path.
* `makeDirectories_of_isDirectory`: if one stands there, nothing is made.
* `makeDirectories_of_free`, `makeDirectories_of_file`: if the directory above is there, what is made
  depends on what stands at the path.
-/

namespace InterfaceSync.FileTree

variable {t u : FileTree} {workingDirectory : Location} {path : String}

/-! ## What stands at a path -/

theorem stat_eq_ok_iff {e : FileEntry} :
    t.stat workingDirectory path = .ok e ↔
      ∃ l, t.locate workingDirectory path = .ok l ∧ t.get? l = some e := by
  unfold stat
  cases hlocate : t.locate workingDirectory path with
  | error e' => simp
  | ok l => cases hget : t.get? l <;> simp [hget]

theorem isDirectory_iff :
    t.isDirectory workingDirectory path = true ↔
      ∃ l, t.locate workingDirectory path = .ok l ∧ t.get? l = some .directory := by
  rw [← stat_eq_ok_iff, isDirectory]
  split
  · rename_i h
    simp [h]
  · rename_i h
    simpa using h

/-- A path that leads to a directory leads to it in every tree that has the directories. -/
theorem isDirectory_of_directories
    (directories : ∀ l, t.get? l = some .directory → u.get? l = some .directory)
    (h : t.isDirectory workingDirectory path = true) : u.isDirectory workingDirectory path = true := by
  obtain ⟨l, hlocate, hget⟩ := isDirectory_iff.1 h
  have hu := directories l hget
  refine isDirectory_iff.2 ⟨l, locate_of_directories directories hlocate fun bytes mode hfile => ?_, hu⟩
  rw [hu] at hfile
  simp at hfile

/-! ## One directory -/

/-- A directory is made where nothing stood. -/
theorem makeDirectory_eq_ok (h : t.makeDirectory workingDirectory path = .ok u) :
    ∃ l, t.locate workingDirectory path = .ok l ∧ t.get? l = none ∧ u = t.insert l .directory := by
  unfold makeDirectory at h
  split at h
  · simp at h
  · rename_i l hlocate
    split at h
    · simp at h
    · rename_i hget
      exact ⟨l, hlocate, hget, (Except.ok.inj h).symm⟩

theorem new_of_makeDirectory (h : t.makeDirectory workingDirectory path = .ok u) {l : Location}
    (hnone : t.get? l = none) (hnew : u.get? l ≠ none) : l = placeOf workingDirectory path := by
  obtain ⟨made, hlocate, hmade, rfl⟩ := makeDirectory_eq_ok h
  rw [get?_insert (ne_root_of_get?_eq_none hmade)] at hnew
  by_cases hl : l = made
  · rw [hl, locate_eq_ok_placeOf hlocate]
  · rw [if_neg hl] at hnew
    exact absurd hnone hnew

theorem isDirectory_of_makeDirectory (h : t.makeDirectory workingDirectory path = .ok u) :
    u.isDirectory workingDirectory path = true := by
  have grows := grows_makeDirectory h
  obtain ⟨l, hlocate, hget, rfl⟩ := makeDirectory_eq_ok h
  have hu : (t.insert l .directory).get? l = some .directory := by
    rw [get?_insert (ne_root_of_get?_eq_none hget), if_pos rfl]
  have hslash : ∀ bytes mode, (t.insert l .directory).get? l = some (.file bytes mode) →
      Path.hasTrailingSlash path = false := by
    intro bytes mode hfile
    rw [hu] at hfile
    simp at hfile
  exact isDirectory_iff.2
    ⟨l, locate_of_directories (fun _ => grows.get?_eq_some) hlocate hslash, hu⟩

/-- Where a directory stands none is made. -/
theorem makeDirectory_of_isDirectory (h : t.isDirectory workingDirectory path = true) :
    t.makeDirectory workingDirectory path = .error .alreadyExists := by
  obtain ⟨l, hlocate, hget⟩ := isDirectory_iff.1 h
  unfold makeDirectory
  rw [hlocate]
  simp only [hget]

/-! ## The directories along a path -/

theorem new_of_makeDirectoriesAlong {paths : List String} {l : Location} (hnone : t.get? l = none)
    (hnew : (makeDirectoriesAlong workingDirectory t paths).2.get? l ≠ none) :
    ∃ up ∈ paths, l = placeOf workingDirectory up := by
  induction paths with
  | nil => exact absurd hnone hnew
  | cons path parents ih =>
    have hhead : l = placeOf workingDirectory path →
        ∃ up ∈ path :: parents, l = placeOf workingDirectory up :=
      fun hl => ⟨path, List.mem_cons_self, hl⟩
    have htail : (makeDirectoriesAlong workingDirectory t parents).2.get? l ≠ none →
        ∃ up ∈ path :: parents, l = placeOf workingDirectory up := by
      intro hparents
      obtain ⟨up, hup, hl⟩ := ih hparents
      exact ⟨up, List.mem_cons_of_mem path hup, hl⟩
    rw [makeDirectoriesAlong] at hnew
    split at hnew
    · exact absurd hnone hnew
    split at hnew
    · rename_i hmade
      exact hhead (new_of_makeDirectory hmade hnone hnew)
    · split at hnew
      · rename_i hparents
        rw [hparents] at htail
        exact htail hnew
      · rename_i made hparents
        rw [hparents] at htail
        by_cases hmid : made.get? l = none
        · split at hnew
          · rename_i hmade
            exact hhead (new_of_makeDirectory hmade hmid hnew)
          · exact absurd hmid hnew
        · exact htail hmid
    · exact absurd hnone hnew

/-- **What is new once directories are made stands where the path, or one above it, leads.** -/
theorem new_of_makeDirectories {l : Location} (hnone : t.get? l = none)
    (hnew : (t.makeDirectories workingDirectory path).2.get? l ≠ none) :
    ∃ up ∈ Path.ancestors path, l = placeOf workingDirectory up :=
  new_of_makeDirectoriesAlong hnone hnew

theorem isDirectory_of_makeDirectoriesAlong {parents : List String} (hne : path.isEmpty = false)
    (h : makeDirectoriesAlong workingDirectory t (path :: parents) = (.ok (), u)) :
    u.isDirectory workingDirectory path = true := by
  -- What is neither made nor missing is a directory already, or the answer is a failure.
  have hthere : ∀ {v : FileTree} {e : FileError},
      ((if v.isDirectory workingDirectory path then .ok () else .error e : Except FileError Unit), v) =
        (.ok (), u) → u.isDirectory workingDirectory path = true := by
    intro v e hv
    obtain ⟨hok, rfl⟩ := Prod.mk.inj hv
    by_contra hnot
    rw [if_neg hnot] at hok
    simp at hok
  rw [makeDirectoriesAlong, hne, if_neg Bool.false_ne_true] at h
  split at h
  · rename_i hmade
    obtain rfl := (Prod.mk.inj h).2
    exact isDirectory_of_makeDirectory hmade
  · split at h
    · simp at h
    · split at h
      · rename_i hmade
        obtain rfl := (Prod.mk.inj h).2
        exact isDirectory_of_makeDirectory hmade
      · exact hthere h
  · exact hthere h

theorem ancestors_eq_cons (path : String) : ∃ parents, Path.ancestors path = path :: parents :=
  ⟨_, rfl⟩

/-- **Once the directories along a path are made, a directory stands at the path.** -/
theorem isDirectory_of_makeDirectories (hne : path.isEmpty = false)
    (h : t.makeDirectories workingDirectory path = (.ok (), u)) :
    u.isDirectory workingDirectory path = true := by
  obtain ⟨parents, hparents⟩ := ancestors_eq_cons path
  rw [makeDirectories, hparents] at h
  exact isDirectory_of_makeDirectoriesAlong hne h

/-- **At a path where a directory stands nothing is made.** -/
theorem makeDirectories_of_isDirectory (h : t.isDirectory workingDirectory path = true) :
    t.makeDirectories workingDirectory path = (.ok (), t) := by
  obtain ⟨parents, hparents⟩ := ancestors_eq_cons path
  rw [makeDirectories, hparents, makeDirectoriesAlong]
  split
  · rfl
  · rw [makeDirectory_of_isDirectory h]

/-- Where nothing stands in a directory one is made, and none above it. -/
theorem makeDirectories_of_free (hne : path.isEmpty = false) {location : Location}
    (hlocate : t.locate workingDirectory path = .ok location) (hget : t.get? location = none) :
    t.makeDirectories workingDirectory path = (.ok (), t.insert location .directory) := by
  have hmade : t.makeDirectory workingDirectory path = .ok (t.insert location .directory) := by
    rw [makeDirectory, hlocate]
    simp only [hget]
  obtain ⟨parents, hparents⟩ := ancestors_eq_cons path
  rw [makeDirectories, hparents, makeDirectoriesAlong, hne, if_neg Bool.false_ne_true, hmade]

/-- **Where a file stands no directory is made**, and that is a failure. -/
theorem makeDirectories_of_file (hne : path.isEmpty = false) {location : Location}
    (hlocate : t.locate workingDirectory path = .ok location) {bytes : ByteArray} {mode : Nat}
    (hget : t.get? location = some (.file bytes mode)) :
    t.makeDirectories workingDirectory path = (.error .alreadyExists, t) := by
  have hmade : t.makeDirectory workingDirectory path = .error .alreadyExists := by
    rw [makeDirectory, hlocate]
    simp only [hget]
  have hnot : ¬ t.isDirectory workingDirectory path = true := by
    intro hdirectory
    obtain ⟨l, hl, hlget⟩ := isDirectory_iff.1 hdirectory
    rw [← Except.ok.inj (hlocate.symm.trans hl), hget] at hlget
    simp at hlget
  obtain ⟨parents, hparents⟩ := ancestors_eq_cons path
  rw [makeDirectories, hparents, makeDirectoriesAlong, hne, if_neg Bool.false_ne_true, hmade]
  simp only
  rw [if_neg hnot]

end InterfaceSync.FileTree
