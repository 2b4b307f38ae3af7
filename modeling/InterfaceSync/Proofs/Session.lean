import InterfaceSync.Proofs.Document
import InterfaceSync.Proofs.Reconcile.Specification
import InterfaceSync.Syncer

/-!
# Sessions

A session is a list of steps carried out one after the other on one document, whatever becomes of each
of them.  A step that succeeds changes what the document holds in one of two ways, and a step that fails
does not change it.

* `generate_cases`, `generateKnown_cases`, `migrate_cases`, `sync_cases`: an operation has its effect, or
  fails and leaves what the document holds.
* `Operation`, `Effect`, `perform_cases`: the same for the four operations together.
* `session`, `Effects`, `session_cases`: what the document holds behind a session comes from what it held
  in front of it by the effects of the steps that succeeded, one after the other.
-/

namespace InterfaceSync
namespace Syncer

/-! ## The operations -/

variable {s : Syncer} {w : Workspace} {held : Option String}

theorem generate_eq (s : Syncer) (name : String) (fields : List Field) (w : Workspace) :
    s.generate name fields w =
      match s.document.extend w.files w.directory (s.interfaceText name fields) with
      | (.ok (), files) => .ok (s.interfaceText name fields)
          { w with files := files, events := w.events ++ [.generating] ++ [.generated] }
      | (.error e, files) =>
          .error e { w with files := files, events := w.events ++ [.generating] } := by
  rw [generate, Action.bind_of_ok (Action.report_apply .generating w), Document.bind_append]
  rfl

/-- Generating an interface appends its text, or fails and leaves what the document holds. -/
theorem generate_cases (h : s.document.HoldsIn w held) (name : String) (fields : List Field) :
    (∃ u, s.generate name fields w = .ok (s.interfaceText name fields) u ∧
        s.document.HoldsIn u (some (held.getD "" ++ s.interfaceText name fields))) ∨
      (∃ e u, s.generate name fields w = .error e u ∧ s.document.HoldsIn u held) := by
  have hreported : s.document.HoldsIn { w with events := w.events ++ [.generating] } held := h
  rw [generate, Action.bind_of_ok (Action.report_apply .generating w)]
  rcases Document.append_cases hreported (s.interfaceText name fields) with
    ⟨files, happend, hfiles⟩ | ⟨e, files, happend, hfiles⟩
  · rw [Action.bind_of_ok happend]
    exact .inl ⟨_, rfl, hfiles⟩
  · rw [Action.bind_of_error happend]
    exact .inr ⟨e, _, rfl, hfiles⟩

/-- Generating the interface of a model that is known appends its text, or fails and leaves what the
document holds. -/
theorem generateKnown_cases (h : s.document.HoldsIn w held) (name : String) :
    (∃ m u, s.model name = .ok m ∧
        s.generateKnown name w = .ok (s.interfaceText m.name m.fields) u ∧
        s.document.HoldsIn u (some (held.getD "" ++ s.interfaceText m.name m.fields))) ∨
      (∃ e u, s.generateKnown name w = .error e u ∧ s.document.HoldsIn u held) := by
  cases hmodel : s.model name with
  | error e =>
    refine .inr ⟨e, w, ?_, h⟩
    rw [generateKnown, hmodel]
    exact Action.bind_of_error (Action.ofExcept_error e w) _
  | ok m =>
    rw [generateKnown, hmodel, Action.bind_of_ok (Action.ofExcept_ok m w)]
    rcases generate_cases h m.name m.fields with ⟨u, hgenerate, hu⟩ | hfailed
    · exact .inl ⟨m, u, rfl, hgenerate, hu⟩
    · exact .inr hfailed

theorem migrate_eq (s : Syncer) (label : String) (fields : List Field) (w : Workspace) :
    s.migrate label fields w =
      match s.document.extend w.files w.directory (Definitions.migrationText label fields) with
      | (.ok (), files) => .ok (Definitions.migrationText label fields)
          { w with files := files, events := w.events ++ [.migrating] }
      | (.error e, files) =>
          .error e { w with files := files, events := w.events ++ [.migrating] } := by
  rw [migrate, Action.bind_of_ok (Action.report_apply .migrating w), Document.bind_append]
  rfl

/-- A migration appends its text, or fails and leaves what the document holds. -/
theorem migrate_cases (h : s.document.HoldsIn w held) (label : String) (fields : List Field) :
    (∃ u, s.migrate label fields w = .ok (Definitions.migrationText label fields) u ∧
        s.document.HoldsIn u (some (held.getD "" ++ Definitions.migrationText label fields))) ∨
      (∃ e u, s.migrate label fields w = .error e u ∧ s.document.HoldsIn u held) := by
  have hreported : s.document.HoldsIn { w with events := w.events ++ [.migrating] } held := h
  rw [migrate, Action.bind_of_ok (Action.report_apply .migrating w)]
  rcases Document.append_cases hreported (Definitions.migrationText label fields) with
    ⟨files, happend, hfiles⟩ | ⟨e, files, happend, hfiles⟩
  · rw [Action.bind_of_ok happend]
    exact .inl ⟨_, rfl, hfiles⟩
  · rw [Action.bind_of_error happend]
    exact .inr ⟨e, _, rfl, hfiles⟩

/-- The text of a document after a reconciliation. -/
def reconciled (m : Model) (text : String) : String :=
  String.ofList (Reconcile.run m.name m.required text.toList).text

/-- A document that is not updated is one that a reconciliation does not change. -/
theorem reconciled_of_outcome_ne {m : Model} {text : String}
    (h : ∀ n, outcome text (Reconcile.run m.name m.required text.toList) ≠ .updated n) :
    reconciled m text = text := by
  by_cases hfound : (Reconcile.run m.name m.required text.toList).blockFound = true
  · by_contra htext
    refine h (Reconcile.run m.name m.required text.toList).changedLines ?_
    rw [reconciled] at htext
    simp [outcome, hfound, htext]
  · rw [reconciled, Reconcile.text_run_of_not_blockFound (Bool.eq_false_iff.2 hfound),
      String.ofList_toList]

/-- Settling the question marks of a text reports something or not, and then writes the reconciled
text, unless nothing is to be written. -/
theorem settle_eq (s : Syncer) (m : Model) (text : String) (w : Workspace) :
    ∃ events, s.settle m text w =
      match outcome text (Reconcile.run m.name m.required text.toList) with
      | .updated n =>
        (s.document.replace (reconciled m text) >>= fun _ => pure (.updated n))
          { w with events := events }
      | result => .ok result { w with events := events } := by
  unfold settle
  simp only
  split
  · refine ⟨w.events ++ [.unbalancedBlock], ?_⟩
    rw [Action.bind_of_ok (Action.report_apply .unbalancedBlock w)]
    cases outcome text (Reconcile.run m.name m.required text.toList) <;> rfl
  · refine ⟨w.events, ?_⟩
    cases outcome text (Reconcile.run m.name m.required text.toList) <;> rfl

/-- Settling the question marks of a text that the document holds makes it hold the reconciled text, or
fails and leaves it. -/
theorem settle_cases {text : String} (h : s.document.HoldsIn w (some text)) (m : Model) :
    (∃ result u, s.settle m text w = .ok result u ∧
        s.document.HoldsIn u (some (reconciled m text))) ∨
      (∃ e u, s.settle m text w = .error e u ∧ s.document.HoldsIn u (some text)) := by
  obtain ⟨events, hsettle⟩ := s.settle_eq m text w
  have hreported : s.document.HoldsIn { w with events := events } (some text) := h
  rw [hsettle]
  split
  · rename_i n _
    rcases Document.replace_cases hreported (reconciled m text) with
      ⟨files, hreplace, hfiles⟩ | ⟨e, files, hreplace, hfiles⟩
    · refine .inl ⟨.updated n, { w with files := files, events := events }, ?_, hfiles⟩
      rw [Action.bind_of_ok hreplace, Action.pure_apply]
    · refine .inr ⟨e, { w with files := files, events := events }, ?_, hfiles⟩
      exact Action.bind_of_error hreplace _
  · rename_i result hne
    refine .inl ⟨_, { w with events := events }, rfl, ?_⟩
    rw [reconciled_of_outcome_ne hne]
    exact hreported

/-- Reconciling the empty text leaves it empty. -/
theorem reconciled_empty (m : Model) : reconciled m "" = "" := rfl

/-- Synchronising the document with a model that is known makes the document hold the reconciled text,
a missing document staying one, or fails and leaves what it holds. -/
theorem sync_cases (h : s.document.HoldsIn w held) (name : String) :
    (∃ m result u, s.model name = .ok m ∧ s.sync name w = .ok result u ∧
        s.document.HoldsIn u (held.map (reconciled m))) ∨
      (∃ e u, s.sync name w = .error e u ∧ s.document.HoldsIn u held) := by
  cases hmodel : s.model name with
  | error e =>
    refine .inr ⟨e, w, ?_, h⟩
    rw [sync, hmodel]
    exact Action.bind_of_error (Action.ofExcept_error e w) _
  | ok m =>
    rw [sync, hmodel, Action.bind_of_ok (Action.ofExcept_ok m w)]
    rcases Document.read_cases h with hread | ⟨rfl, e, hread⟩
    · rw [Action.bind_of_ok hread]
      cases held with
      | none =>
        exact .inl ⟨m, .missingDocument,
          { w with events := w.events ++ [.reconciled .missingDocument] }, rfl, rfl, h⟩
      | some text =>
        rcases settle_cases h m with ⟨result, u, hsettle, hu⟩ | ⟨e, u, hsettle, hu⟩
        · refine .inl ⟨m, result, { u with events := u.events ++ [.reconciled result] }, rfl, ?_, hu⟩
          exact Action.bind_of_ok hsettle _
        · exact .inr ⟨e, u, Action.bind_of_error hsettle _, hu⟩
    · exact .inr ⟨e, w, Action.bind_of_error hread _, h⟩

/-! ## Steps -/

/-- The operations on the document of a syncer. -/
inductive Operation where
  | generate (name : String) (fields : List Field)
  | generateKnown (name : String)
  | migrate (label : String) (fields : List Field)
  | sync (name : String)
  deriving DecidableEq, Repr

/-- Carries out an operation.  The answer is the text that was appended, if the operation appends one. -/
def perform (s : Syncer) : Operation → Action (Option String)
  | .generate name fields => some <$> s.generate name fields
  | .generateKnown name => some <$> s.generateKnown name
  | .migrate label fields => some <$> s.migrate label fields
  | .sync name => (fun _ => none) <$> s.sync name

/-- What an operation that succeeds answers with, and what text it makes of the text from before.  A
document that is missing counts as empty. -/
inductive Effect (s : Syncer) : Operation → Option String → String → String → Prop where
  | generate (name : String) (fields : List Field) (before : String) :
      Effect s (.generate name fields) (some (s.interfaceText name fields)) before
        (before ++ s.interfaceText name fields)
  | generateKnown {name : String} {m : Model} (known : s.model name = .ok m) (before : String) :
      Effect s (.generateKnown name) (some (s.interfaceText m.name m.fields)) before
        (before ++ s.interfaceText m.name m.fields)
  | migrate (label : String) (fields : List Field) (before : String) :
      Effect s (.migrate label fields) (some (Definitions.migrationText label fields)) before
        (before ++ Definitions.migrationText label fields)
  | sync {name : String} {m : Model} (known : s.model name = .ok m) (before : String) :
      Effect s (.sync name) none before (reconciled m before)

/-- **An operation has its effect on what the document holds, or fails and leaves it.** -/
theorem perform_cases (h : s.document.HoldsIn w held) (operation : Operation) :
    (∃ answer u after, s.perform operation w = .ok answer u ∧ s.document.HoldsIn u after ∧
        s.Effect operation answer (held.getD "") (after.getD "")) ∨
      (∃ e u, s.perform operation w = .error e u ∧ s.document.HoldsIn u held) := by
  cases operation with
  | generate name fields =>
    rcases generate_cases h name fields with ⟨u, hdone, hu⟩ | ⟨e, u, hfailed, hu⟩
    · exact .inl ⟨_, u, _, Action.map_of_ok hdone some, hu, .generate name fields _⟩
    · exact .inr ⟨e, u, Action.map_of_error hfailed some, hu⟩
  | generateKnown name =>
    rcases generateKnown_cases h name with ⟨m, u, known, hdone, hu⟩ | ⟨e, u, hfailed, hu⟩
    · exact .inl ⟨_, u, _, Action.map_of_ok hdone some, hu, .generateKnown known _⟩
    · exact .inr ⟨e, u, Action.map_of_error hfailed some, hu⟩
  | migrate label fields =>
    rcases migrate_cases h label fields with ⟨u, hdone, hu⟩ | ⟨e, u, hfailed, hu⟩
    · exact .inl ⟨_, u, _, Action.map_of_ok hdone some, hu, .migrate label fields _⟩
    · exact .inr ⟨e, u, Action.map_of_error hfailed some, hu⟩
  | sync name =>
    rcases sync_cases h name with ⟨m, result, u, known, hdone, hu⟩ | ⟨e, u, hfailed, hu⟩
    · have htext : (held.map (reconciled m)).getD "" = reconciled m (held.getD "") := by
        cases held with
        | none => exact (reconciled_empty m).symm
        | some text => rfl
      refine .inl ⟨_, u, _, Action.map_of_ok hdone _, hu, ?_⟩
      rw [htext]
      exact .sync known _
    · exact .inr ⟨e, u, Action.map_of_error hfailed _, hu⟩

end Syncer

/-! ## Sessions -/

/-- A step of a session: an operation, with the models that are known then and whether new interfaces
are exported then. -/
structure Step where
  catalogue : Option Catalogue
  exported : Bool
  operation : Syncer.Operation

/-- The syncer that carries a step out on a document. -/
def Step.syncer (step : Step) (doc : Document) : Syncer := ⟨doc, step.catalogue, step.exported⟩

/-- Carries out steps one after the other, going on behind a step that fails.  The result is a list of
the steps that succeeded, with their answers. -/
def session (doc : Document) : List Step → Workspace → List (Step × Option String) × Workspace
  | [], w => ([], w)
  | step :: rest, w =>
    match (step.syncer doc).perform step.operation w with
    | .ok answer w =>
      let (log, w) := session doc rest w
      ((step, answer) :: log, w)
    | .error _ w => session doc rest w

/-- What text comes from a text by steps that succeed with the given answers. -/
inductive Effects (doc : Document) : List (Step × Option String) → String → String → Prop where
  | nil (text : String) : Effects doc [] text text
  | cons {step : Step} {answer : Option String} {log : List (Step × Option String)}
      {before between after : String}
      (effect : (step.syncer doc).Effect step.operation answer before between)
      (effects : Effects doc log between after) : Effects doc ((step, answer) :: log) before after

/-- **Behind a session the document holds what the steps that succeeded made of what it held.** -/
theorem session_cases {doc : Document} {w : Workspace} {held : Option String}
    (h : doc.HoldsIn w held) (steps : List Step) :
    ∃ after, doc.HoldsIn (session doc steps w).2 after ∧
      Effects doc (session doc steps w).1 (held.getD "") (after.getD "") := by
  induction steps generalizing w held with
  | nil => exact ⟨held, h, .nil _⟩
  | cons step rest ih =>
    have hdoc : (step.syncer doc).document.HoldsIn w held := h
    rw [session]
    rcases Syncer.perform_cases hdoc step.operation with
      ⟨answer, u, between, hdone, hu, effect⟩ | ⟨e, u, hfailed, hu⟩
    · obtain ⟨after, hafter, effects⟩ := ih hu
      rw [hdone]
      exact ⟨after, hafter, .cons effect effects⟩
    · rw [hfailed]
      exact ih hu

/-- A model with a required field. -/
def post : Model where
  name := "post"
  fields := [⟨"title", .unspecified, none⟩]
  validations := [⟨.presence, ["title"]⟩]
  associations := []

/-- A catalogue with one model. -/
def posts : Catalogue := ⟨[post], List.pairwise_singleton _ _⟩

/-- The interface of the model is generated, and then the model is synchronised. -/
def postSteps : List Step :=
  [⟨some posts, true, .generateKnown "Post"⟩, ⟨some posts, false, .sync "post"⟩]

end InterfaceSync
