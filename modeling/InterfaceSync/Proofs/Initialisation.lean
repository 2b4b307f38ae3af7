import InterfaceSync.Commands
import InterfaceSync.Proofs.Files.Writing
import InterfaceSync.Proofs.Workspace

/-!
# Starting a project without losing a file

`init` writes the settings file first and looks for the manifest after that.  The settings file is
overwritten only if that is asked for, a manifest never, and no other file is touched.  One way is left
in which a file is lost: the settings have been overwritten already when it turns out that a file stands
where the directory of the manifest belongs.  The command fails then, and the old settings are gone
(`run_loses_settings`).

* `createManifest_cases`: the manifest is there afterwards, unless a file is in the way.
* `Course`, `run_course`: the four ways in which a start can go, with the tree that each leaves behind.
* `SparesFiles`, `run_sparesFiles`: what a start does to the files that are there.
-/

namespace InterfaceSync.Commands
namespace Init

variable {t u v : FileTree} {workingDirectory : Location} {w : Workspace} {force minimal : Bool}

/-! ## The places -/

/-- Where the settings file is. -/
def settingsPlace (workingDirectory : Location) : Location :=
  FileTree.placeOf workingDirectory Settings.fileName

/-- Where the directory of the manifest is. -/
def directoryPlace (workingDirectory : Location) : Location :=
  FileTree.placeOf workingDirectory manifestDirectory

/-- Where the manifest is. -/
def manifestPlace (workingDirectory : Location) : Location :=
  FileTree.placeOf workingDirectory Settings.defaultModelsPath

theorem spells_fileName : Path.Spells Settings.fileName ["modelsync.toml"] := by decide

theorem spells_manifestDirectory : Path.Spells manifestDirectory ["config"] := by decide

theorem spells_defaultModelsPath :
    Path.Spells Settings.defaultModelsPath (["config"] ++ ["models.toml"]) := by
  decide

theorem settingsPlace_eq (workingDirectory : Location) :
    settingsPlace workingDirectory = workingDirectory ++ ["modelsync.toml"] :=
  FileTree.placeOf_of_spells spells_fileName

theorem directoryPlace_eq (workingDirectory : Location) :
    directoryPlace workingDirectory = workingDirectory ++ ["config"] :=
  FileTree.placeOf_of_spells spells_manifestDirectory

/-- The manifest is in its directory. -/
theorem manifestPlace_eq (workingDirectory : Location) :
    manifestPlace workingDirectory = directoryPlace workingDirectory ++ ["models.toml"] := by
  rw [directoryPlace_eq, List.append_assoc]
  exact FileTree.placeOf_of_spells spells_defaultModelsPath

theorem directoryPlace_ne_settingsPlace (workingDirectory : Location) :
    directoryPlace workingDirectory ≠ settingsPlace workingDirectory := by
  rw [directoryPlace_eq, settingsPlace_eq]
  simp

theorem manifestPlace_ne_directoryPlace (workingDirectory : Location) :
    manifestPlace workingDirectory ≠ directoryPlace workingDirectory := by
  rw [manifestPlace_eq]
  simp

/-- Settings are found exactly if something stands in their place. -/
theorem isPresent_fileName_iff (rooted : t.IsRooted) :
    t.isPresent workingDirectory Settings.fileName = true ↔
      t.get? (settingsPlace workingDirectory) ≠ none :=
  rooted.isPresent_iff (show Path.Spells Settings.fileName ([] ++ ["modelsync.toml"]) from
    spells_fileName)

/-! ## The manifest -/

/-- A file stands where the directory of the manifest belongs. -/
def IsBlocked (t : FileTree) (workingDirectory : Location) : Prop :=
  ∃ bytes mode, t.get? (directoryPlace workingDirectory) = some (.file bytes mode)

theorem not_isBlocked_of_get? {e : Option FileEntry}
    (h : t.get? (directoryPlace workingDirectory) = e) (he : ∀ bytes mode, e ≠ some (.file bytes mode)) :
    ¬ IsBlocked t workingDirectory := by
  rintro ⟨bytes, mode, hget⟩
  exact he bytes mode (h.symm.trans hget)

/-- The tree once the directory of the manifest is there. -/
structure HasDirectory (t : FileTree) (workingDirectory : Location) (u : FileTree) : Prop where
  rooted : u.IsRooted
  get?_eq : ∀ l, u.get? l =
    if l = directoryPlace workingDirectory then some .directory else t.get? l

/-- The tree once the manifest is there: one that was there is left. -/
structure HasManifest (t : FileTree) (workingDirectory : Location) (u : FileTree) : Prop where
  rooted : u.IsRooted
  get?_eq : ∀ l, u.get? l =
    if l = directoryPlace workingDirectory then some .directory
    else if l = manifestPlace workingDirectory then
      (t.get? l).or (some (.file emptyManifest.toUTF8 FileTree.newFileMode))
    else t.get? l

/-- **The directory of the manifest can be made, unless a file is in its place.** -/
theorem makeDirectories_cases (rooted : t.IsRooted)
    (hdirectory : t.get? workingDirectory = some .directory) :
    (IsBlocked t workingDirectory ∧
        t.makeDirectories workingDirectory manifestDirectory = (.error .alreadyExists, t)) ∨
      (¬ IsBlocked t workingDirectory ∧ ∃ u,
        t.makeDirectories workingDirectory manifestDirectory = (.ok (), u) ∧
          HasDirectory t workingDirectory u) := by
  have hlocate : t.locate workingDirectory manifestDirectory = .ok (directoryPlace workingDirectory) :=
    (rooted.locate_name_iff spells_manifestDirectory).2 ⟨hdirectory, rfl⟩
  cases hget : t.get? (directoryPlace workingDirectory) with
  | none =>
    refine .inr ⟨not_isBlocked_of_get? hget (by simp), _,
      FileTree.makeDirectories_of_free rfl hlocate hget, ?_, ?_⟩
    · rw [directoryPlace_eq]
      exact rooted.insert hdirectory (.inl rfl)
    · exact fun l => FileTree.get?_insert (FileTree.ne_root_of_get?_eq_none hget)
  | some e =>
    cases e with
    | file bytes mode =>
      exact .inl ⟨⟨bytes, mode, hget⟩, FileTree.makeDirectories_of_file rfl hlocate hget⟩
    | directory =>
      have hthere := FileTree.isDirectory_iff.2 ⟨_, hlocate, hget⟩
      refine .inr ⟨not_isBlocked_of_get? hget (by simp), t,
        FileTree.makeDirectories_of_isDirectory hthere, rooted, fun l => ?_⟩
      split
      · rename_i hl
        rw [hl, hget]
      · rfl

/-- What stands in the place of the manifest stands in its directory. -/
theorem get?_directoryPlace (rooted : t.IsRooted)
    (h : t.get? (manifestPlace workingDirectory) ≠ none) :
    t.get? (directoryPlace workingDirectory) = some .directory := by
  rw [manifestPlace_eq] at h
  exact rooted _ _ h

theorem hasManifest_of_get? (rooted : t.IsRooted)
    (h : t.get? (manifestPlace workingDirectory) ≠ none) : HasManifest t workingDirectory t := by
  refine ⟨rooted, fun l => ?_⟩
  split
  · rename_i hl
    rw [hl, get?_directoryPlace rooted h]
  · split
    · rename_i hl
      obtain ⟨e, he⟩ := Option.ne_none_iff_exists'.1 h
      rw [hl, he, Option.some_or]
    · rfl

/-- What is there stays when the manifest is made. -/
theorem HasManifest.get?_eq_some (h : HasManifest t workingDirectory u)
    (free : ¬ IsBlocked t workingDirectory) {l : Location} {e : FileEntry} (he : t.get? l = some e) :
    u.get? l = some e := by
  rw [h.get?_eq]
  split
  · rename_i hl
    rw [hl] at he
    cases e with
    | file bytes mode => exact absurd ⟨bytes, mode, he⟩ free
    | directory => rfl
  · split
    · rw [he, Option.some_or]
    · exact he

/-- The only file that is new then is the manifest. -/
theorem HasManifest.eq_manifestPlace (h : HasManifest t workingDirectory u) {l : Location}
    (hnone : t.get? l = none) {bytes : ByteArray} {mode : Nat}
    (hfile : u.get? l = some (.file bytes mode)) : l = manifestPlace workingDirectory := by
  rw [h.get?_eq] at hfile
  split at hfile
  · simp at hfile
  · split at hfile
    · assumption
    · rw [hnone] at hfile
      simp at hfile

/-- In its directory the manifest can be written. -/
theorem HasDirectory.write (h : HasDirectory t workingDirectory v)
    (hnone : t.get? (manifestPlace workingDirectory) = none) :
    ∃ u, v.write workingDirectory Settings.defaultModelsPath emptyManifest.toUTF8 = .ok u ∧
      HasManifest t workingDirectory u := by
  have hparent : v.get? (directoryPlace workingDirectory) = some .directory := by
    rw [h.get?_eq, if_pos rfl]
  have hlocate :
      v.locate workingDirectory Settings.defaultModelsPath = .ok (manifestPlace workingDirectory) := by
    rw [directoryPlace_eq] at hparent
    exact (h.rooted.locate_eq_ok_iff spells_defaultModelsPath).2 ⟨hparent, rfl⟩
  have hfree : v.get? (manifestPlace workingDirectory) = none := by
    rw [h.get?_eq, if_neg (manifestPlace_ne_directoryPlace _), hnone]
  have hnot : v.get? (manifestPlace workingDirectory) ≠ some .directory := by
    rw [hfree]
    simp
  refine ⟨_, FileTree.write_of_located hlocate hnot spells_defaultModelsPath.noTrailingSlash _, ?_,
    fun l => ?_⟩
  · rw [manifestPlace_eq] at hnot ⊢
    exact h.rooted.insert hparent (.inr hnot)
  · rw [FileTree.get?_insert (FileTree.ne_root_of_get?_eq_none hfree), FileTree.writtenMode, hfree]
    by_cases hl : l = manifestPlace workingDirectory
    · rw [if_pos hl, hl, if_neg (manifestPlace_ne_directoryPlace _), if_pos rfl, hnone,
        Option.none_or]
    · rw [if_neg hl, if_neg hl, h.get?_eq]

theorem isTaken_apply (path : String) (w : Workspace) :
    isTaken path w = .ok (w.files.isPresent w.directory path) w :=
  rfl

theorem create_of_ok {path text : String}
    (h : w.files.write w.directory path text.toUTF8 = .ok u) :
    create path text w = .ok () { w with files := u, events := w.events ++ [.created path] } := by
  have hwrite := Action.write_apply path text.toUTF8 w
  rw [h] at hwrite
  rw [create, Action.bind_of_ok hwrite]
  rfl

theorem create_of_error {path text : String} {e : FileError}
    (h : w.files.write w.directory path text.toUTF8 = .error e) :
    create path text w = .error (.io e) w := by
  have hwrite := Action.write_apply path text.toUTF8 w
  rw [h] at hwrite
  rw [create, Action.bind_of_error hwrite]

/-- **A manifest is there afterwards, unless a file is in the way of its directory.** -/
theorem createManifest_cases (rooted : w.files.IsRooted)
    (hdirectory : w.files.get? w.directory = some .directory) :
    (IsBlocked w.files w.directory ∧ createManifest w = .error (.io .alreadyExists) w) ∨
      (¬ IsBlocked w.files w.directory ∧ ∃ u events,
        createManifest w = .ok () { w with files := u, events := events } ∧
          HasManifest w.files w.directory u) := by
  rw [createManifest, Action.bind_of_ok (isTaken_apply _ w)]
  cases hpresent : w.files.isPresent w.directory Settings.defaultModelsPath with
  | true =>
    have hmanifest := (rooted.isPresent_iff spells_defaultModelsPath).1 hpresent
    exact .inr ⟨not_isBlocked_of_get? (get?_directoryPlace rooted hmanifest) (by simp),
      w.files, w.events, rfl, hasManifest_of_get? rooted hmanifest⟩
  | false =>
    have hnone : w.files.get? (manifestPlace w.directory) = none := by
      have hnot := (rooted.isPresent_iff spells_defaultModelsPath).not.1 (Bool.eq_false_iff.1 hpresent)
      exact not_not.1 hnot
    have hmakes := Action.makeDirectories_apply manifestDirectory w
    rcases makeDirectories_cases rooted hdirectory with ⟨hblocked, hmade⟩ | ⟨hfree, v, hmade, hv⟩
    · rw [hmade] at hmakes
      exact .inl ⟨hblocked, Action.bind_of_error hmakes _⟩
    · rw [hmade] at hmakes
      obtain ⟨u, hwrite, hu⟩ := hv.write hnone
      exact .inr ⟨hfree, u, _, (Action.bind_of_ok hmakes _).trans (create_of_ok hwrite), hu⟩

/-! ## The settings -/

/-- The text of the settings file that is written. -/
def settingsText (minimal : Bool) : String :=
  if minimal then minimalSettings else fullSettings

/-- The tree once the settings file was written; a file that was there keeps its permission bits. -/
structure HasSettings (minimal : Bool) (t : FileTree) (workingDirectory : Location)
    (u : FileTree) : Prop where
  rooted : u.IsRooted
  get?_eq : ∀ l, u.get? l =
    if l = settingsPlace workingDirectory then
      some (.file (settingsText minimal).toUTF8
        (t.writtenMode (settingsPlace workingDirectory)))
    else t.get? l

namespace HasSettings

theorem get?_of_ne (h : HasSettings minimal t workingDirectory u) {l : Location}
    (hl : l ≠ settingsPlace workingDirectory) : u.get? l = t.get? l := by
  rw [h.get?_eq, if_neg hl]

theorem get?_settingsPlace (h : HasSettings minimal t workingDirectory u) {bytes : ByteArray}
    {mode : Nat} (hfile : t.get? (settingsPlace workingDirectory) = some (.file bytes mode)) :
    u.get? (settingsPlace workingDirectory) = some (.file (settingsText minimal).toUTF8 mode) := by
  rw [h.get?_eq, if_pos rfl, FileTree.writtenMode_of_file hfile]

/-- Only the settings file is new. -/
theorem eq_settingsPlace (h : HasSettings minimal t workingDirectory u) {l : Location}
    (hnone : t.get? l = none) (hnew : u.get? l ≠ none) : l = settingsPlace workingDirectory := by
  by_contra hl
  rw [h.get?_of_ne hl] at hnew
  exact hnew hnone

/-- The settings file is not in the way of the manifest. -/
theorem isBlocked_iff (h : HasSettings minimal t workingDirectory u) :
    IsBlocked u workingDirectory ↔ IsBlocked t workingDirectory := by
  rw [IsBlocked, IsBlocked, h.get?_of_ne (directoryPlace_ne_settingsPlace _)]

end HasSettings

/-- Nothing can be written in the place of the settings file: there is no working directory, or a
directory stands in that place. -/
def IsRefused (t : FileTree) (workingDirectory : Location) : Prop :=
  t.get? workingDirectory ≠ some .directory ∨
    t.get? (settingsPlace workingDirectory) = some .directory

/-- **The settings file is written, or the place refuses one.** -/
theorem create_settings_cases (rooted : w.files.IsRooted) (minimal : Bool) :
    (IsRefused w.files w.directory ∧
        ∃ fault, create Settings.fileName (settingsText minimal) w = .error fault w) ∨
      (¬ IsRefused w.files w.directory ∧ ∃ u,
        create Settings.fileName (settingsText minimal) w =
            .ok () { w with files := u, events := w.events ++ [.created Settings.fileName] } ∧
          HasSettings minimal w.files w.directory u) := by
  by_cases hdirectory : w.files.get? w.directory = some .directory
  · have hlocate : w.files.locate w.directory Settings.fileName = .ok (settingsPlace w.directory) :=
      (rooted.locate_name_iff spells_fileName).2 ⟨hdirectory, rfl⟩
    by_cases hget : w.files.get? (settingsPlace w.directory) = some .directory
    · exact .inl ⟨.inr hget, _, create_of_error (FileTree.write_of_directory hlocate hget _)⟩
    · have hwrite := FileTree.write_of_located hlocate hget spells_fileName.noTrailingSlash
        (settingsText minimal).toUTF8
      refine .inr ⟨?_, _, create_of_ok hwrite, ?_, fun l => FileTree.get?_insert ?_⟩
      · rintro (h | h)
        · exact h hdirectory
        · exact hget h
      · rw [settingsPlace_eq] at hget ⊢
        exact rooted.insert hdirectory (.inr hget)
      · rw [settingsPlace_eq]
        simp
  · refine .inl ⟨.inl hdirectory, ?_⟩
    cases hlocate : w.files.locate w.directory Settings.fileName with
    | ok l =>
      exact absurd ((rooted.locate_name_iff spells_fileName).1 hlocate).1 hdirectory
    | error e => exact ⟨_, create_of_error (FileTree.write_of_not_located hlocate _)⟩

/-! ## The command -/

/-- The settings file may be written: it may be overwritten, or nothing stands in its place. -/
def MayWrite (force : Bool) (t : FileTree) (workingDirectory : Location) : Prop :=
  force = true ∨ t.get? (settingsPlace workingDirectory) = none

/-- The ways in which starting a project can go. -/
inductive Course (force minimal : Bool) (w : Workspace) :
    EStateM.Result Fault Workspace Unit → Prop where
  /-- Something stands in the place of the settings file and is left there. -/
  | inTheWay (unforced : force = false) (taken : w.files.get? (settingsPlace w.directory) ≠ none) :
      Course force minimal w (.ok () { w with events := w.events ++ [.settingsInTheWay] })
  /-- The settings file cannot be written. -/
  | refused {fault : Fault} (may : MayWrite force w.files w.directory)
      (refused : IsRefused w.files w.directory) : Course force minimal w (.error fault w)
  /-- The settings file is written, and the directory of the manifest cannot be made. -/
  | blocked {u : FileTree} {events : List Event} (may : MayWrite force w.files w.directory)
      (unrefused : ¬ IsRefused w.files w.directory) (blocked : IsBlocked w.files w.directory)
      (written : HasSettings minimal w.files w.directory u) :
      Course force minimal w (.error (.io .alreadyExists) { w with files := u, events := events })
  /-- The settings file is written, and the manifest is there. -/
  | started {v u : FileTree} {events : List Event} (may : MayWrite force w.files w.directory)
      (unrefused : ¬ IsRefused w.files w.directory) (free : ¬ IsBlocked w.files w.directory)
      (written : HasSettings minimal w.files w.directory v) (made : HasManifest v w.directory u) :
      Course force minimal w (.ok () { w with files := u, events := events })

theorem run_of_taken (h : w.files.isPresent w.directory Settings.fileName = true) :
    run false minimal w = .ok () { w with events := w.events ++ [.settingsInTheWay] } := by
  rw [run, Action.bind_of_ok (isTaken_apply _ w), h]
  rfl

/-- Where the settings file may be written, it is written first and the manifest after it. -/
theorem run_of_mayWrite
    (h : (w.files.isPresent w.directory Settings.fileName && !force) = false) :
    run force minimal w = (do
      create Settings.fileName (settingsText minimal)
      createManifest
      [Event.initialised, .nextSteps, .describeModels, .runModel, .runValidations].forM
        Action.report) w := by
  rw [run, Action.bind_of_ok (isTaken_apply _ w), h]
  rfl

/-- **A start goes in one of four ways.** -/
theorem run_course (rooted : w.files.IsRooted) (force minimal : Bool) :
    Course force minimal w (run force minimal w) := by
  cases hmay : (w.files.isPresent w.directory Settings.fileName && !force) with
  | true =>
    obtain ⟨hpresent, hforce⟩ := Bool.and_eq_true_iff.1 hmay
    obtain rfl : force = false := by simpa using hforce
    rw [run_of_taken hpresent]
    exact .inTheWay rfl ((isPresent_fileName_iff rooted).1 hpresent)
  | false =>
    have may : MayWrite force w.files w.directory := by
      rcases Bool.and_eq_false_iff.1 hmay with hpresent | hforce
      · have hnot := (isPresent_fileName_iff rooted).not.1 (Bool.eq_false_iff.1 hpresent)
        exact .inr (not_not.1 hnot)
      · exact .inl (by simpa using hforce)
    rw [run_of_mayWrite hmay]
    rcases create_settings_cases rooted minimal with
      ⟨hrefused, fault, hcreate⟩ | ⟨hnot, v, hcreate, hv⟩
    · rw [Action.bind_of_error hcreate]
      exact .refused may hrefused
    · rw [Action.bind_of_ok hcreate]
      have hdirectory : v.get? w.directory = some .directory := by
        rw [hv.get?_of_ne]
        · by_contra h
          exact hnot (.inl h)
        · rw [settingsPlace_eq]
          simp
      rcases createManifest_cases
          (w := { w with files := v, events := w.events ++ [.created Settings.fileName] })
          hv.rooted hdirectory with ⟨hblocked, hfailed⟩ | ⟨hfree, u, events, hmade, hu⟩
      · rw [Action.bind_of_error hfailed]
        exact .blocked may hnot (hv.isBlocked_iff.1 hblocked) hv
      · rw [Action.bind_of_ok hmade, Action.forM_report_apply]
        exact .started may hnot (fun h => hfree (hv.isBlocked_iff.2 h)) hv hu

theorem run_eq_of_command {i : Invocation} (h : i.command = .init force minimal) :
    Commands.run i = run force minimal := by
  rw [Commands.run, h]

/-! ## The files that are there -/

/-- A settings file stands in a directory and is none. -/
theorem not_isRefused_of_file (rooted : t.IsRooted) {bytes : ByteArray} {mode : Nat}
    (hfile : t.get? (settingsPlace workingDirectory) = some (.file bytes mode)) :
    ¬ IsRefused t workingDirectory := by
  rintro (hnot | hdirectory)
  · refine hnot (rooted _ "modelsync.toml" ?_)
    rw [← settingsPlace_eq, hfile]
    simp
  · rw [hfile] at hdirectory
    simp at hdirectory

/-- What a start in a workspace `w` does to the files that are there, if it comes to `answer` and leaves
the workspace `u` behind. -/
structure SparesFiles (force minimal : Bool) (w : Workspace) (answer : Except Fault Unit)
    (u : Workspace) : Prop where
  /-- The tree stays rooted. -/
  rooted : u.files.IsRooted
  /-- What stands beside the settings file is left. -/
  kept : ∀ l ≠ settingsPlace w.directory, ∀ e, w.files.get? l = some e → u.files.get? l = some e
  /-- New files are the settings file and the manifest. -/
  created : ∀ l bytes mode, w.files.get? l = none → u.files.get? l = some (.file bytes mode) →
    l = settingsPlace w.directory ∨ l = manifestPlace w.directory
  /-- Without force settings that are there are left, and so is everything else. -/
  unforced : force = false → w.files.get? (settingsPlace w.directory) ≠ none → u.files = w.files
  /-- With force a settings file is overwritten, whether or not the start succeeds then. -/
  forced : force = true → ∀ bytes mode,
    w.files.get? (settingsPlace w.directory) = some (.file bytes mode) →
      u.files.get? (settingsPlace w.directory) =
          some (.file (settingsText minimal).toUTF8 mode) ∧
        (answer = .ok () ↔ ¬ IsBlocked w.files w.directory)
  /-- A start that fails leaves everything, unless a file is in the way of the manifest. -/
  failed : answer ≠ .ok () → u.files = w.files ∨ IsBlocked w.files w.directory
  /-- Behind a start that succeeded one without force changes nothing. -/
  again : answer = .ok () → ∀ (next : Invocation) (minimal' : Bool),
    next.command = .init false minimal' →
      Commands.run next u = .ok () { u with events := u.events ++ [.settingsInTheWay] }

/-- Where something stands in the place of the settings file, a start without force changes nothing. -/
theorem run_of_settings {next : Invocation} (h : next.command = .init false minimal)
    (rooted : w.files.IsRooted) (taken : w.files.get? (settingsPlace w.directory) ≠ none) :
    Commands.run next w = .ok () { w with events := w.events ++ [.settingsInTheWay] } := by
  rw [run_eq_of_command h]
  exact run_of_taken ((isPresent_fileName_iff rooted).2 taken)

/-- Settings that may be written without force are not there. -/
theorem MayWrite.get?_eq_none (may : MayWrite force t workingDirectory) (unforced : force = false) :
    t.get? (settingsPlace workingDirectory) = none := by
  rcases may with hforce | hnone
  · rw [unforced] at hforce
    simp at hforce
  · exact hnone

/-- **`init` spares every file but settings that it may overwrite.**  These are overwritten also if the
command fails then, which it does if a file stands where the directory of the manifest belongs. -/
theorem run_sparesFiles {i : Invocation} (h : i.command = .init force minimal)
    (rooted : w.files.IsRooted) :
    SparesFiles force minimal w (Action.answer (Commands.run i) w)
      (Action.after (Commands.run i) w) := by
  rw [run_eq_of_command h]
  have course := run_course rooted force minimal
  generalize hresult : run force minimal w = result at course
  cases course with
  | inTheWay unforced taken =>
    rw [Action.answer_of_ok hresult, Action.after_of_ok hresult]
    exact {
      rooted := rooted
      kept := fun _ _ _ he => he
      created := fun _ _ _ hnone hfile => absurd (hnone.symm.trans hfile) (by simp)
      unforced := fun _ _ => rfl
      forced := fun forced => absurd (unforced.symm.trans forced) (by simp)
      failed := fun hfailed => absurd rfl hfailed
      again := fun _ _ _ hnext => run_of_settings hnext rooted taken }
  | refused may refused =>
    rw [Action.answer_of_error hresult, Action.after_of_error hresult]
    exact {
      rooted := rooted
      kept := fun _ _ _ he => he
      created := fun _ _ _ hnone hfile => absurd (hnone.symm.trans hfile) (by simp)
      unforced := fun _ _ => rfl
      forced := fun _ _ _ hfile => absurd refused (not_isRefused_of_file rooted hfile)
      failed := fun _ => .inl rfl
      again := fun hok => by simp at hok }
  | blocked may unrefused blocked written =>
    rw [Action.answer_of_error hresult, Action.after_of_error hresult]
    exact {
      rooted := written.rooted
      kept := fun _ hl _ he => (written.get?_of_ne hl).trans he
      created := fun _ _ _ hnone hfile =>
        .inl (written.eq_settingsPlace hnone (Option.ne_none_iff_exists'.2 ⟨_, hfile⟩))
      unforced := fun unforced taken => absurd (may.get?_eq_none unforced) taken
      forced := fun _ _ _ hfile =>
        ⟨written.get?_settingsPlace hfile, by simp, fun hnot => absurd blocked hnot⟩
      failed := fun _ => .inr blocked
      again := fun hok => by simp at hok }
  | @started v u _ may unrefused free written made =>
    rw [Action.answer_of_ok hresult, Action.after_of_ok hresult]
    have hstays : ∀ {l e}, v.get? l = some e → u.get? l = some e :=
      made.get?_eq_some (mt written.isBlocked_iff.1 free)
    have taken : u.get? (settingsPlace w.directory) ≠ none := by
      have hwritten := written.get?_eq (settingsPlace w.directory)
      rw [if_pos rfl] at hwritten
      rw [hstays hwritten]
      simp
    exact {
      rooted := made.rooted
      kept := fun _ hl _ he => hstays ((written.get?_of_ne hl).trans he)
      created := fun l _ _ hnone hfile => by
        by_cases hnew : v.get? l = none
        · exact .inr (made.eq_manifestPlace hnew hfile)
        · exact .inl (written.eq_settingsPlace hnone hnew)
      unforced := fun unforced taken => absurd (may.get?_eq_none unforced) taken
      forced := fun _ _ _ hfile =>
        ⟨hstays (written.get?_settingsPlace hfile), fun _ => free, fun _ => rfl⟩
      failed := fun hfailed => absurd rfl hfailed
      again := fun _ _ _ hnext => run_of_settings hnext made.rooted taken }

/-- A workspace with settings in the root, and with a file where the directory of the manifest belongs. -/
def obstructed : Workspace where
  files :=
    ⟨[(["modelsync.toml"], .file "# mine\n".toUTF8 0o600),
      (["config"], .file "a file".toUTF8 FileTree.newFileMode)]⟩
  directory := []
  environment := .empty
  events := []
  output := ""

/-- The command line `init --force --minimal`. -/
def forcedStart : Invocation := ⟨none, none, none, false, .init true true⟩

theorem isRooted_obstructed : obstructed.files.IsRooted :=
  FileTree.isRooted_of_forall_entries (by decide)

/-- A start with force where a file is in the way of the manifest. -/
theorem run_sparesFiles_obstructed :
    forcedStart.command = .init true true ∧ obstructed.files.IsRooted ∧
      SparesFiles true true obstructed (Action.answer (Commands.run forcedStart) obstructed)
        (Action.after (Commands.run forcedStart) obstructed) :=
  ⟨rfl, isRooted_obstructed, run_sparesFiles rfl isRooted_obstructed⟩

/-- **The old settings are lost**, although the command fails. -/
theorem run_loses_settings :
    Action.answer (Commands.run forcedStart) obstructed = .error (.io .alreadyExists) ∧
      obstructed.files.get? ["modelsync.toml"] = some (.file "# mine\n".toUTF8 0o600) ∧
      (Action.after (Commands.run forcedStart) obstructed).files.get? ["modelsync.toml"] =
        some (.file
          "[typesync]\noutput_path = \"app/javascript/types/models.d.ts\"\n".toUTF8 0o600) := by
  decide +kernel

end Init
end InterfaceSync.Commands
