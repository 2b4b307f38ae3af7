import InterfaceSync.Proofs.Atomicity

/-!
# Synchronisations that fail halfway

The models that `validations` is given are looked up one by one, each when its turn comes.  So a name
that the manifest does not list is found out behind the models in front of it, and their interfaces are
settled by then (`validations_settles_in_front`).  There is no other way for a failure to come late: a
document that could not be read or written is not read or written at all.

* `syncAll_of_not_ready`: a document that cannot be read or written is left.
* `syncAll_error`: behind a failure the document is left, or it is reconciled with the models in front of
  the first name that is not known.
* `validations_error`: the same for the command.
-/

namespace InterfaceSync
namespace Syncer

open Commands (syncAll)

variable {s : Syncer} {w u : Workspace} {fault : Fault}

/-! ## Documents that are not ready -/

theorem isLeft_of_sync_eq_error {name : String} (h : s.sync name w = .error fault u) :
    s.document.IsLeft w.files w.directory u.files := by
  have hsync := s.isAtomic_sync name w
  rw [h] at hsync
  rcases hsync with hidle | hatomic
  · exact hidle.elim
  · cases hatomic with
    | failed left => exact left

/-- A synchronisation that succeeds on a document that is not ready reports something and does nothing
else. -/
theorem sync_of_not_ready (h : ∀ text, ¬ s.document.IsReady w text) (name : String) :
    (∃ result events, s.sync name w = .ok result { w with events := events }) ∨
      (∃ e u, s.sync name w = .error e u ∧ s.document.IsLeft w.files w.directory u.files) := by
  have failed : ∀ {e u}, s.sync name w = .error e u → (∃ e u, s.sync name w = .error e u ∧
      s.document.IsLeft w.files w.directory u.files) :=
    fun hsync => ⟨_, _, hsync, isLeft_of_sync_eq_error hsync⟩
  cases known : s.model name with
  | error e => exact .inr (failed (sync_of_unknown known w))
  | ok m =>
    cases hread : s.document.text? w.files w.directory with
    | error e => exact .inr (failed (sync_of_unreadable known hread))
    | ok found =>
      cases found with
      | none => exact .inl ⟨_, _, sync_of_missing known hread⟩
      | some text =>
        have cannot : ¬ s.document.CanStore w.files w.directory := fun can => h text ⟨hread, can⟩
        rcases sync_of_not_canStore hread cannot name with hdone | ⟨e, u, hsync, -⟩
        · exact .inl hdone
        · exact .inr (failed hsync)

/-- **A document that cannot be read or written is left.** -/
theorem syncAll_of_not_ready (h : ∀ text, ¬ s.document.IsReady w text) (names : List String) :
    s.document.IsLeft w.files w.directory (Action.after (syncAll s names) w).files := by
  refine after_syncAll (P := fun v => v.files = w.files ∧ v.directory = w.directory)
    (Q := fun v => s.document.IsLeft w.files w.directory v.files) ?_ ?_ ⟨rfl, rfl⟩ names
  · rintro v ⟨hfiles, -⟩
    rw [hfiles]
    exact .refl _ _ _
  · rintro name v ⟨hfiles, hdirectory⟩
    have hnot : ∀ text, ¬ s.document.IsReady v text := by
      rintro text ⟨holds, can⟩
      rw [Document.HoldsIn, hfiles, hdirectory] at holds
      rw [hfiles, hdirectory] at can
      exact h text ⟨holds, can⟩
    rcases sync_of_not_ready hnot name with ⟨result, events, hdone⟩ | ⟨e, u, hfailed, left⟩
    · exact .inl ⟨result, _, hdone, fun _ => ⟨hfiles, hdirectory⟩⟩
    · rw [hfiles, hdirectory] at left
      exact .inr ⟨e, u, hfailed, left⟩

/-! ## The first name that is not known -/

theorem exists_first_unknown (s : Syncer) (names : List String) :
    (∃ models : List Model, names.map s.model = models.map .ok) ∨
      ∃ front name rest e, ∃ models : List Model, names = front ++ name :: rest ∧
        front.map s.model = models.map .ok ∧ s.model name = .error e := by
  induction names with
  | nil => exact .inl ⟨[], rfl⟩
  | cons name rest ih =>
    cases hmodel : s.model name with
    | error e => exact .inr ⟨[], name, rest, e, [], rfl, rfl, hmodel⟩
    | ok m =>
      rcases ih with ⟨models, known⟩ | ⟨front, unknown, behind, e, models, rfl, known, herror⟩
      · exact .inl ⟨m :: models, by rw [List.map_cons, List.map_cons, hmodel, known]⟩
      · refine .inr ⟨name :: front, unknown, behind, e, m :: models, rfl, ?_, herror⟩
        rw [List.map_cons, List.map_cons, hmodel, known]

theorem syncAll_append_of_ok {front : List String} (h : syncAll s front w = .ok () u)
    (rest : List String) : syncAll s (front ++ rest) w = syncAll s rest u := by
  induction front generalizing w with
  | nil =>
    have hdone : (.ok () w : EStateM.Result Fault Workspace Unit) = .ok () u := h
    rw [List.nil_append, (EStateM.Result.ok.inj hdone).2]
  | cons name front ih =>
    rw [List.cons_append]
    cases hsync : s.sync name w with
    | error e v =>
      rw [syncAll_cons_of_error hsync] at h
      simp at h
    | ok result v =>
      rw [syncAll_cons_of_ok hsync] at h ⊢
      exact ih h

/-- **Behind a failure the document is left, or it is reconciled with the models in front of the first
name that is not known.** -/
theorem syncAll_error {names : List String} (h : syncAll s names w = .error fault u) :
    s.document.IsLeft w.files w.directory u.files ∨
      ∃ front name rest text, ∃ models : List Model, names = front ++ name :: rest ∧
        front.map s.model = models.map .ok ∧ s.model name = .error fault ∧
        s.document.HoldsIn w (some text) ∧
        s.document.HoldsIn u (some (reconciledAll models text)) := by
  by_cases ready : ∃ text, s.document.IsReady w text
  · obtain ⟨text, hw⟩ := ready
    rcases s.exists_first_unknown names with
      ⟨models, known⟩ | ⟨front, name, rest, e, models, rfl, known, unknown⟩
    · obtain ⟨v, hdone, -⟩ := syncAll_of_ready known hw
      rw [hdone] at h
      simp at h
    · obtain ⟨v, hfront, hv⟩ := syncAll_of_ready known hw
      rw [syncAll_append_of_ok hfront, syncAll_cons_of_error (sync_of_unknown unknown v)] at h
      obtain ⟨rfl, rfl⟩ := EStateM.Result.error.inj h
      exact .inr ⟨front, name, rest, text, models, rfl, known, unknown, hw.holds, hv.holds⟩
  · push Not at ready
    refine .inl ?_
    rw [← Action.after_of_error h]
    exact syncAll_of_not_ready ready names

end Syncer

namespace Commands

variable {settings : Settings} {w : Workspace}

/-! ## The command -/

/-- Looking into the manifest reports something and does nothing else. -/
theorem catalogue_cases (settings : Settings) (w : Workspace) :
    (∃ c events, catalogue settings w = .ok c { w with events := events }) ∨
      (∃ e events, catalogue settings w = .error e { w with events := events }) := by
  have hload : (∃ c events, Manifest.load settings.modelsPath w = .ok c { w with events := events }) ∨
      (∃ e events, Manifest.load settings.modelsPath w = .error e { w with events := events }) := by
    have hread := Action.readText_apply settings.modelsPath
      { w with events := w.events ++ [.loadingManifest settings.modelsPath] }
    rw [Manifest.load, Action.bind_of_ok (Action.report_apply _ w)]
    split at hread
    · rename_i text _
      rw [Action.bind_of_ok hread]
      cases Manifest.catalogue settings.modelsPath text with
      | ok c => exact .inl ⟨c, _, rfl⟩
      | error e => exact .inr ⟨e, _, rfl⟩
    · rw [Action.bind_of_error hread]
      exact .inr ⟨_, _, rfl⟩
  unfold catalogue
  rcases hload with ⟨c, events, hload⟩ | ⟨e, events, hload⟩
  · rw [Action.bind_of_ok hload]
    exact .inl ⟨c, events ++ [.modelsFound c.size], rfl⟩
  · rw [Action.bind_of_error hload]
    exact .inr ⟨e, events, rfl⟩

/-- **A command that fails leaves the document, or reconciles it with the models in front of the first
name that the manifest does not list.** -/
theorem validations_error {names : List String} {fault : Fault} {u : Workspace}
    (h : validations settings names w = .error fault u) :
    (document settings).IsLeft w.files w.directory u.files ∨
      ∃ c v front name rest text, ∃ models : List Model, catalogue settings w = .ok c v ∧
        names = front ++ name :: rest ∧ front.map c.get = models.map .ok ∧
        c.find? name = none ∧ fault = .missingModel name ∧
        (document settings).HoldsIn w (some text) ∧
        (document settings).HoldsIn u (some (Syncer.reconciledAll models text)) := by
  rcases catalogue_cases settings w with ⟨c, events, hc⟩ | ⟨e, events, hc⟩
  · rw [validations, Action.bind_of_ok hc] at h
    rcases Syncer.syncAll_error h with
      left | ⟨front, name, rest, text, models, hnames, known, unknown, hw, hu⟩
    · exact .inl left
    · refine .inr ⟨c, _, front, name, rest, text, models, hc, hnames, known, ?_⟩
      have hget : c.get name = .error fault := unknown
      unfold Catalogue.get at hget
      split at hget
      · simp at hget
      · rename_i hfind
        exact ⟨hfind, (Except.error.inj hget).symm, hw, hu⟩
  · rw [validations, Action.bind_of_error hc] at h
    obtain ⟨-, rfl⟩ := EStateM.Result.error.inj h
    exact .inl (.refl _ _ _)

/-- Settings for a manifest and a document in the root. -/
def inRootSettings : Settings := ⟨"models.json", Document.inRoot.path, false⟩

/-- A workspace with a manifest that lists one model, and with the interface of that model. -/
def withManifest : Workspace :=
  { Document.onlyInRoot none with
    files :=
      ⟨[(["models.json"], .file "\x7b\"models\":[\x7b\"name\":\"post\"\x7d]\x7d".toUTF8 0o644),
        (["models.d.ts"], .file "interface Post \x7b\n  title: string;\n\x7d\n".toUTF8 0o644)]⟩ }

/-- Whether a result is a given failure and leaves a given file in the root. -/
def failsLeaving (fault : Fault) (name : String) (file : FileEntry) :
    EStateM.Result Fault Workspace Unit → Bool
  | .ok _ _ => false
  | .error found u => decide (found = fault) && decide (u.files.get? [name] = some file)

theorem exists_of_failsLeaving {fault : Fault} {name : String} {file : FileEntry}
    {result : EStateM.Result Fault Workspace Unit} (h : failsLeaving fault name file result = true) :
    ∃ u, result = .error fault u ∧ u.files.get? [name] = some file := by
  cases result with
  | ok _ _ => simp [failsLeaving] at h
  | error found u =>
    rw [failsLeaving, Bool.and_eq_true, decide_eq_true_eq, decide_eq_true_eq] at h
    exact ⟨u, by rw [h.1], h.2⟩

theorem failsLeaving_validations : failsLeaving (.missingModel "ghost") "models.d.ts"
    (.file "interface Post \x7b\n  title?: string;\n\x7d\n".toUTF8 0o644)
    (validations inRootSettings ["post", "ghost"] withManifest) = true := by
  decide +kernel

/-- The second of two names is not known. -/
theorem validations_error_ghost :
    ∃ fault u, validations inRootSettings ["post", "ghost"] withManifest = .error fault u ∧
      ((document inRootSettings).IsLeft withManifest.files withManifest.directory u.files ∨
        ∃ c v front name rest text, ∃ models : List Model,
          catalogue inRootSettings withManifest = .ok c v ∧
          ["post", "ghost"] = front ++ name :: rest ∧ front.map c.get = models.map .ok ∧
          c.find? name = none ∧ fault = .missingModel name ∧
          (document inRootSettings).HoldsIn withManifest (some text) ∧
          (document inRootSettings).HoldsIn u (some (Syncer.reconciledAll models text))) := by
  obtain ⟨u, hfailed, -⟩ := exists_of_failsLeaving failsLeaving_validations
  exact ⟨_, u, hfailed, validations_error hfailed⟩

/-- **The interface of the first model is settled**, although the command fails. -/
theorem validations_settles_in_front :
    withManifest.files.get? ["models.d.ts"] =
        some (.file "interface Post \x7b\n  title: string;\n\x7d\n".toUTF8 0o644) ∧
      ∃ u, validations inRootSettings ["post", "ghost"] withManifest =
          .error (.missingModel "ghost") u ∧
        u.files.get? ["models.d.ts"] =
          some (.file "interface Post \x7b\n  title?: string;\n\x7d\n".toUTF8 0o644) :=
  ⟨by decide, exists_of_failsLeaving failsLeaving_validations⟩

end Commands
end InterfaceSync
