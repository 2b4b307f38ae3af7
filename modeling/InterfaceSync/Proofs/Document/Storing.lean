import InterfaceSync.Document
import InterfaceSync.Proofs.Files.Directories

/-!
# Putting bytes into the definitions document

The directory of the document is made, a temporary file is put there, and it is moved over the document.
Whether this succeeds is decided by the directories and the path, never by the bytes.  So the two
outcomes are told apart by a condition on the tree.

* `CanMove`, `moveInto_cases`: a file is moved to the place of the document and nothing else is touched,
  or nothing is touched at all.
* `CanStore`, `store_cases`: the same for the whole of it, apart from directories that are made.
* `CanStore.of_isStored`: a document that was written can be written again.
-/

namespace InterfaceSync.Document

variable {doc : Document} {t u v : FileTree} {workingDirectory : Location}

/-- The place that the path of the document spells. -/
def place (doc : Document) (workingDirectory : Location) : Location :=
  FileTree.placeOf workingDirectory doc.path

/-! ## Moving a file over the document -/

/-- When a file can be moved over the document: its path leads to a name, and no directory stands
there. -/
structure CanMove (doc : Document) (t : FileTree) (workingDirectory : Location) : Prop where
  locate_eq : t.locate workingDirectory doc.path = .ok (doc.place workingDirectory)
  endsWithName : FileTree.endsWithName doc.path = true
  noSlash : Path.hasTrailingSlash doc.path = false
  notDirectory : t.get? (doc.place workingDirectory) ≠ some .directory

/-- Only the directories of a tree decide whether a file can be moved. -/
theorem CanMove.of_directories (h : doc.CanMove t workingDirectory)
    (directories : ∀ l, t.get? l = some .directory ↔ u.get? l = some .directory) :
    doc.CanMove u workingDirectory where
  locate_eq :=
    FileTree.locate_of_directories (fun l => (directories l).1) h.locate_eq fun _ _ _ => h.noSlash
  endsWithName := h.endsWithName
  noSlash := h.noSlash
  notDirectory := fun hu => h.notDirectory ((directories _).2 hu)

theorem rename_eq_ok_iff {source : Location} {bytes : ByteArray} {mode : Nat}
    (hsource : t.get? source = some (.file bytes mode)) :
    t.rename workingDirectory source doc.path = .ok u ↔
      doc.CanMove t workingDirectory ∧
        u = (t.erase source).insert (doc.place workingDirectory) (.file bytes mode) := by
  unfold FileTree.rename
  rw [hsource]
  constructor
  · intro h
    simp only at h
    split at h
    · simp at h
    rename_i target hlocate
    split at h
    · simp at h
    rename_i hname
    split at h
    · simp at h
    rename_i hslash
    split at h
    · simp at h
    rename_i hdirectory
    have htarget : target = doc.place workingDirectory := FileTree.locate_eq_ok_placeOf hlocate
    rw [htarget] at hlocate hdirectory h
    exact ⟨⟨hlocate, by simpa using hname, by simpa using hslash, hdirectory⟩, (Except.ok.inj h).symm⟩
  · rintro ⟨hmove, rfl⟩
    simp only [hmove.locate_eq, hmove.endsWithName, hmove.noSlash, Bool.not_true, Bool.false_eq_true,
      if_false]
    split
    · rename_i hget
      exact absurd hget hmove.notDirectory
    · rfl

/-- The tree with the temporary file, without it again, is the tree from before. -/
theorem get?_erase_insert {temporary l : Location} {e : FileEntry} (free : t.get? temporary = none) :
    ((t.insert temporary e).erase temporary).get? l = t.get? l := by
  have hne := FileTree.ne_root_of_get?_eq_none free
  rw [FileTree.get?_erase hne, FileTree.get?_insert hne]
  by_cases hl : l = temporary
  · rw [if_pos hl, hl, free]
  · rw [if_neg hl, if_neg hl]

/-- The temporary file is no directory and takes the place of none. -/
theorem get?_insert_eq_directory_iff {temporary l : Location} {bytes : ByteArray} {mode : Nat}
    (free : t.get? temporary = none) :
    t.get? l = some .directory ↔
      (t.insert temporary (.file bytes mode)).get? l = some .directory := by
  rw [FileTree.get?_insert (FileTree.ne_root_of_get?_eq_none free)]
  by_cases hl : l = temporary
  · simp [hl, free]
  · rw [if_neg hl]

theorem moveInto_eq (doc : Document) (t : FileTree) (workingDirectory directory : Location)
    (content : FileEntry) :
    doc.moveInto t workingDirectory directory content =
      match (t.insert (directory ++ [t.freeName directory]) content).rename workingDirectory
        (directory ++ [t.freeName directory]) doc.path with
      | .ok u => (.ok (), u)
      | .error e => (.error (.persist e), (t.insert (directory ++ [t.freeName directory]) content).erase
          (directory ++ [t.freeName directory])) :=
  rfl

/-- **The file is put at the place of the document, and nothing else is touched, or nothing is touched
at all.** -/
theorem moveInto_cases (doc : Document) (t : FileTree) (workingDirectory directory : Location)
    (bytes : ByteArray) (mode : Nat) :
    (doc.CanMove t workingDirectory ∧
        ∃ u, doc.moveInto t workingDirectory directory (.file bytes mode) = (.ok (), u) ∧
          ∀ l, u.get? l = if l = doc.place workingDirectory then some (.file bytes mode) else t.get? l) ∨
      (¬ doc.CanMove t workingDirectory ∧
        ∃ e u, doc.moveInto t workingDirectory directory (.file bytes mode) = (.error e, u) ∧
          ∀ l, u.get? l = t.get? l) := by
  have free := t.get?_freeName directory
  rw [moveInto_eq]
  generalize directory ++ [t.freeName directory] = temporary at free
  have hfilled : (t.insert temporary (.file bytes mode)).get? temporary = some (.file bytes mode) := by
    rw [FileTree.get?_insert (FileTree.ne_root_of_get?_eq_none free), if_pos rfl]
  have hdirectories : ∀ l, t.get? l = some .directory ↔
      (t.insert temporary (.file bytes mode)).get? l = some .directory :=
    fun _ => get?_insert_eq_directory_iff free
  cases hrename : (t.insert temporary (.file bytes mode)).rename workingDirectory temporary doc.path with
  | error e =>
    refine .inr ⟨fun hmove => ?_, _, _, rfl, fun l => get?_erase_insert free⟩
    rw [(rename_eq_ok_iff hfilled).2 ⟨hmove.of_directories hdirectories, rfl⟩] at hrename
    simp at hrename
  | ok u =>
    obtain ⟨hmove, rfl⟩ := (rename_eq_ok_iff hfilled).1 hrename
    have hplace : doc.place workingDirectory ≠ [] := by
      intro hroot
      exact hmove.notDirectory (hroot ▸ FileTree.get?_root _)
    refine .inl ⟨hmove.of_directories fun l => (hdirectories l).symm, _, rfl, fun l => ?_⟩
    rw [FileTree.get?_insert hplace, get?_erase_insert free]

/-! ## The permission bits -/

/-- The permission bits of the file at the place of the document, or of a new file if none stands
there. -/
def modeAt (doc : Document) (t : FileTree) (workingDirectory : Location) : Nat :=
  match t.get? (doc.place workingDirectory) with
  | some (.file _ mode) => mode
  | _ => FileTree.newFileMode

/-- If a file can be moved over the document, the bits are those at its place. -/
theorem CanMove.bits_eq (h : doc.CanMove t workingDirectory) :
    doc.bits t workingDirectory = .ok (doc.modeAt t workingDirectory) := by
  unfold bits modeAt FileTree.stat
  rw [h.locate_eq]
  cases hget : t.get? (doc.place workingDirectory) with
  | none => simp [hget]
  | some e =>
    cases e with
    | file bytes mode => simp [hget]
    | directory => exact absurd hget h.notDirectory

/-! ## Storing -/

/-- The tree once the directory of the document was made, or tried to be. -/
def prepared (doc : Document) (t : FileTree) (workingDirectory : Location) : FileTree :=
  (t.makeDirectories workingDirectory doc.directory).2

/-- When bytes can be put into the document: its directory can be made, the path of a temporary file in
it is not too long, and a file can be moved over the document then. -/
structure CanStore (doc : Document) (t : FileTree) (workingDirectory : Location) : Prop where
  made : (t.makeDirectories workingDirectory doc.directory).1 = .ok ()
  short : doc.temporaryPathLength workingDirectory < FileTree.pathLimit
  canMove : doc.CanMove (doc.prepared t workingDirectory) workingDirectory

theorem grows_prepared (doc : Document) (t : FileTree) (workingDirectory : Location) :
    FileTree.Grows t (doc.prepared t workingDirectory) :=
  FileTree.grows_makeDirectories t workingDirectory doc.directory

theorem directory_isEmpty (doc : Document) : doc.directory.isEmpty = false := by
  unfold directory
  split
  · split
    · rfl
    · rename_i h
      simpa using h
  · rfl

/-- Once the directory of the document is made, it is there. -/
theorem isDirectory_prepared
    (made : (t.makeDirectories workingDirectory doc.directory).1 = .ok ()) :
    (doc.prepared t workingDirectory).isDirectory workingDirectory doc.directory = true :=
  FileTree.isDirectory_of_makeDirectories doc.directory_isEmpty (Prod.ext made rfl)

/-- Making the directory of the document does not change the bits that the document gets. -/
theorem CanMove.modeAt_prepared
    (h : doc.CanMove (doc.prepared t workingDirectory) workingDirectory) :
    doc.modeAt (doc.prepared t workingDirectory) workingDirectory = doc.modeAt t workingDirectory := by
  rcases doc.grows_prepared t workingDirectory (doc.place workingDirectory) with hsame | ⟨-, hnew⟩
  · rw [modeAt, hsame, modeAt]
  · exact absurd hnew h.notDirectory

/-- The tree once bytes were put into the document. -/
def IsStored (doc : Document) (t : FileTree) (workingDirectory : Location) (bytes : ByteArray)
    (v : FileTree) : Prop :=
  ∀ l, v.get? l = if l = doc.place workingDirectory
    then some (.file bytes (doc.modeAt t workingDirectory))
    else (doc.prepared t workingDirectory).get? l

/-- **Bytes are put into the document, or not; apart from that, directories are made.** -/
theorem store_cases (doc : Document) (t : FileTree) (workingDirectory : Location) (bytes : ByteArray) :
    (doc.CanStore t workingDirectory ∧ ∃ v, doc.store t workingDirectory bytes = (.ok (), v) ∧
        doc.IsStored t workingDirectory bytes v) ∨
      (¬ doc.CanStore t workingDirectory ∧
        ∃ e v, doc.store t workingDirectory bytes = (.error e, v) ∧
          ∀ l, v.get? l = (doc.prepared t workingDirectory).get? l) := by
  unfold store
  rcases hmade : t.makeDirectories workingDirectory doc.directory with ⟨e | ⟨⟨⟩⟩, u⟩
  · refine .inr ⟨fun h => ?_, _, u, rfl, fun l => by rw [prepared, hmade]⟩
    have hok := h.made
    rw [hmade] at hok
    simp at hok
  have hok : (t.makeDirectories workingDirectory doc.directory).1 = .ok () := by rw [hmade]
  have hu : doc.prepared t workingDirectory = u := by rw [prepared, hmade]
  have hthere := isDirectory_prepared hok
  rw [hu] at hthere
  obtain ⟨directory, hlocate, -⟩ := FileTree.isDirectory_iff.1 hthere
  by_cases hlong : FileTree.pathLimit ≤ doc.temporaryPathLength workingDirectory
  · have hplace : doc.temporaryPlace u workingDirectory = .error .nameTooLong := if_pos hlong
    refine .inr ⟨fun h => absurd h.short (Nat.not_lt.2 hlong), .io .nameTooLong, u, ?_, ?_⟩
    · simp only [hplace]
    · exact fun l => by rw [hu]
  have hplace : doc.temporaryPlace u workingDirectory = .ok directory := by
    rw [temporaryPlace, if_neg hlong, hlocate]
  simp only [hplace]
  by_cases hmove : doc.CanMove u workingDirectory
  · have hbits := hmove.bits_eq
    have hprepared : doc.CanMove (doc.prepared t workingDirectory) workingDirectory := by rwa [hu]
    have hmode := hprepared.modeAt_prepared
    rw [hu] at hmode
    simp only [hbits]
    rcases doc.moveInto_cases u workingDirectory directory bytes (doc.modeAt u workingDirectory) with
      ⟨-, v, hdone, hget⟩ | ⟨hnot, -⟩
    · refine .inl ⟨⟨hok, Nat.not_le.1 hlong, hprepared⟩, v, hdone, fun l => ?_⟩
      rw [hget, hmode, hu]
    · exact absurd hmove hnot
  · have hnot : ¬ doc.CanStore t workingDirectory := fun h => hmove (hu ▸ h.canMove)
    cases hbits : doc.bits u workingDirectory with
    | error e => exact .inr ⟨hnot, _, u, rfl, fun l => by rw [hu]⟩
    | ok mode =>
      rcases doc.moveInto_cases u workingDirectory directory bytes mode with
        ⟨hcan, -⟩ | ⟨-, e, v, hfailed, hget⟩
      · exact absurd hcan hmove
      · exact .inr ⟨hnot, e, v, hfailed, fun l => by rw [hget, hu]⟩

/-- The path of a document that was written leads to its place. -/
theorem IsStored.canMove {bytes : ByteArray} (h : doc.IsStored t workingDirectory bytes v)
    (can : doc.CanStore t workingDirectory) : doc.CanMove v workingDirectory := by
  refine can.canMove.of_directories fun l => ?_
  rw [h l]
  by_cases hl : l = doc.place workingDirectory
  · rw [if_pos hl, hl]
    simp [can.canMove.notDirectory]
  · rw [if_neg hl]

/-- **A document that was written can be written again.** -/
theorem CanStore.of_isStored {bytes : ByteArray} (can : doc.CanStore t workingDirectory)
    (h : doc.IsStored t workingDirectory bytes v) : doc.CanStore v workingDirectory := by
  have hthere : v.isDirectory workingDirectory doc.directory = true := by
    refine FileTree.isDirectory_of_directories (fun l hl => ?_) (isDirectory_prepared can.made)
    have hplace : l ≠ doc.place workingDirectory := by
      rintro rfl
      exact can.canMove.notDirectory hl
    rw [h l, if_neg hplace, hl]
  have hagain := FileTree.makeDirectories_of_isDirectory hthere
  refine ⟨by rw [hagain], can.short, ?_⟩
  rw [prepared, hagain]
  exact h.canMove can

end InterfaceSync.Document
