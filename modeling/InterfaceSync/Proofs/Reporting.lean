import InterfaceSync.Proofs.Atomicity
import InterfaceSync.Proofs.Catalogue
import InterfaceSync.Proofs.Reconcile.Repetition

/-!
# What a synchronisation reports

A synchronisation takes two decisions.  What it answers comes from the report of the reconciliation, and
whether it writes from a comparison of the texts.  The two never disagree: it answers that it updated the
document exactly if the text of the document is another one afterwards, and every other answer, a failure
included, leaves all files as they were.

Whether a document is there is decided by its path.  If that leads nowhere, the document is missing, and
this is no failure.  If it leads through a file, the document cannot be there either, but to look for it
is a failure (`sync_fails_below_file`).

* `Document.IsMissing`, `Document.IsUnreadable`, `Document.HasText`: what is found on the path.
* `Finding`, `sync_finding`: what a synchronisation finds, with its answer.
* `IsReported`, `isReported_sync`: each answer, and exactly when it is given.
-/

namespace InterfaceSync

/-! ## What is found on the path of a document -/

namespace Document

variable {doc : Document} {w : Workspace} {text : String}

/-- The path of the document leads nowhere. -/
def IsMissing (doc : Document) (w : Workspace) : Prop :=
  w.files.stat w.directory doc.path = .error .notFound

/-- What is on the path of the document is no text: bytes of no text, a directory, or a path that cannot
be followed. -/
def IsUnreadable (doc : Document) (w : Workspace) : Prop :=
  match w.files.stat w.directory doc.path with
  | .ok (.file bytes _) => String.fromUTF8? bytes = none
  | .ok .directory => True
  | .error e => e ≠ .notFound

/-- A file with the text stands on the path of the document. -/
def HasText (doc : Document) (w : Workspace) (text : String) : Prop :=
  ∃ mode, w.files.stat w.directory doc.path = .ok (.file text.toUTF8 mode)

theorem text?_eq_ok_none_iff :
    doc.text? w.files w.directory = .ok none ↔ doc.IsMissing w := by
  unfold text? FileTree.readText FileTree.read IsMissing
  cases w.files.stat w.directory doc.path with
  | error e => cases e <;> simp
  | ok entry =>
    cases entry with
    | directory => simp
    | file bytes mode => cases htext : String.fromUTF8? bytes <;> simp [htext]

theorem text?_eq_error_iff :
    (∃ e, doc.text? w.files w.directory = .error e) ↔ doc.IsUnreadable w := by
  unfold text? FileTree.readText FileTree.read IsUnreadable
  cases w.files.stat w.directory doc.path with
  | error e => cases e <;> simp
  | ok entry =>
    cases entry with
    | directory => simp
    | file bytes mode => cases htext : String.fromUTF8? bytes <;> simp [htext]

theorem text?_eq_ok_some_iff :
    doc.text? w.files w.directory = .ok (some text) ↔ doc.HasText w text := by
  have hplace {l : Location} (h : w.files.locate w.directory doc.path = .ok l) :
      l = doc.place w.directory := FileTree.locate_eq_ok_placeOf h
  simp only [text?_eq_some_iff, HasText, FileTree.stat_eq_ok_iff]
  constructor
  · rintro ⟨hlocate, mode, hget⟩
    exact ⟨mode, _, hlocate, hget⟩
  · rintro ⟨mode, l, hlocate, hget⟩
    obtain rfl := hplace hlocate
    exact ⟨hlocate, mode, hget⟩

/-- A file has one text. -/
theorem HasText.eq {other : String} (h : doc.HasText w text) (hother : doc.HasText w other) :
    other = text := by
  have hread := text?_eq_ok_some_iff.2 h
  rw [text?_eq_ok_some_iff.2 hother] at hread
  simpa using hread

theorem HasText.not_isMissing (h : doc.HasText w text) : ¬ doc.IsMissing w := by
  intro hmissing
  have hread := text?_eq_ok_some_iff.2 h
  rw [text?_eq_ok_none_iff.2 hmissing] at hread
  simp at hread

theorem HasText.not_isUnreadable (h : doc.HasText w text) : ¬ doc.IsUnreadable w := by
  intro hunreadable
  obtain ⟨e, he⟩ := text?_eq_error_iff.2 hunreadable
  rw [text?_eq_ok_some_iff.2 h] at he
  simp at he

theorem IsMissing.not_isUnreadable (h : doc.IsMissing w) : ¬ doc.IsUnreadable w := by
  intro hunreadable
  obtain ⟨e, he⟩ := text?_eq_error_iff.2 hunreadable
  rw [text?_eq_ok_none_iff.2 h] at he
  simp at he

end Document

/-! ## Lines that differ -/

namespace Reconcile

/-- Lists of equally many lines are equal if no line differs. -/
theorem eq_of_differing_eq_zero {list other : List Text.Line} (hlength : list.length = other.length)
    (h : differing list other = 0) : list = other := by
  rw [differing, List.countP_eq_zero] at h
  refine List.ext_getElem hlength fun i hi hi' => ?_
  have hmem : (list[i], other[i]) ∈ list.zip other := by
    rw [← List.getElem_zip (h := by rw [List.length_zip]; omega)]
    exact List.getElem_mem _
  simpa using h _ hmem

theorem length_lines_text_run (modelName : String) (required : List String) (text : List Char) :
    (Text.lines (run modelName required text).text).length = (Text.lines text).length := by
  rw [lines_text_run, scan, length_settleLines]

/-- The number of changed lines is the number of lines that differ. -/
theorem changedLines_eq_differing (modelName : String) (required : List String) (text : List Char) :
    (run modelName required text).changedLines =
      differing (Text.lines text) (Text.lines (run modelName required text).text) := by
  rw [changedLines_run, lines_text_run]

/-- A block is found exactly if a line is the heading of the interface. -/
theorem blockFound_run_iff {modelName : String} (required : List String) {text : List Char} :
    (run modelName required text).blockFound = true ↔
      ∃ l ∈ Text.lines text, Heading.IsHeading (Naming.pascal modelName).toList l.body := by
  constructor
  · intro h
    by_contra hnone
    push Not at hnone
    rw [run_of_absent hnone] at h
    simp at h
  · rintro ⟨l, hl, hheading⟩
    exact blockFound_run_of_mem required hl hheading

end Reconcile

/-! ## What a synchronisation finds -/

namespace Syncer

variable {s : Syncer} {w : Workspace} {name : String} {m : Model} {text : String}

/-- The model that a name stands for, if there is a catalogue and the model is in it. -/
def modelFor? (s : Syncer) (name : String) : Option Model :=
  s.catalogue.bind fun c => c.find? name

theorem model_eq_ok_iff : s.model name = .ok m ↔ s.modelFor? name = some m := by
  unfold model modelFor?
  cases s.catalogue with
  | none => simp
  | some c => exact Catalogue.get_eq_ok_iff

theorem model_eq_error_iff : (∃ e, s.model name = .error e) ↔ s.modelFor? name = none := by
  unfold model modelFor?
  cases s.catalogue with
  | none => simp
  | some c => simp [Catalogue.get_eq_error_iff]

/-- Whether a line of the text is the heading of the interface of the model. -/
def HasHeading (m : Model) (text : String) : Prop :=
  ∃ l ∈ Text.lines text.toList, Heading.IsHeading (Naming.pascal m.name).toList l.body

/-- How many lines of two texts differ, line by line. -/
def differingLines (text other : String) : ℕ :=
  Reconcile.differing (Text.lines text.toList) (Text.lines other.toList)

theorem toList_reconciled (m : Model) (text : String) :
    (reconciled m text).toList = (Reconcile.run m.name m.required text.toList).text :=
  String.toList_ofList

theorem outcomeFor_of_not_hasHeading (h : ¬ HasHeading m text) :
    outcomeFor m text = .noMatchingBlock := by
  have hfound := mt (Reconcile.blockFound_run_iff m.required).1 h
  rw [outcomeFor, outcome, Bool.eq_false_iff.2 hfound, Bool.not_false, if_pos rfl]

theorem outcomeFor_of_hasHeading (h : HasHeading m text) :
    outcomeFor m text = if reconciled m text = text then .unchanged
      else .updated (differingLines text (reconciled m text)) := by
  have hfound := (Reconcile.blockFound_run_iff m.required).2 h
  have hchanged : (Reconcile.run m.name m.required text.toList).changedLines =
      differingLines text (reconciled m text) := by
    rw [Reconcile.changedLines_eq_differing, differingLines, toList_reconciled]
  rw [outcomeFor, outcome, hfound, hchanged, Bool.not_true, if_neg Bool.false_ne_true, reconciled]

/-- A text that is reconciled already has the heading that it had. -/
theorem hasHeading_reconciled (h : HasHeading m text) : HasHeading m (reconciled m text) := by
  have hfound := (Reconcile.blockFound_run_iff m.required).2 h
  have hscan := Reconcile.scan_text_run m.name m.required m.required text.toList
  rw [Reconcile.blockFound_run, ← hscan, ← Reconcile.blockFound_run, ← toList_reconciled] at hfound
  exact (Reconcile.blockFound_run_iff m.required).1 hfound

theorem reconciled_reconciled (m : Model) (text : String) :
    reconciled m (reconciled m text) = reconciled m text := by
  have hscan := Reconcile.scan_text_run m.name m.required m.required text.toList
  have hagain := Reconcile.text_run m.name m.required (reconciled m text).toList
  rw [toList_reconciled, hscan, ← Reconcile.text_run, ← toList_reconciled] at hagain
  rw [reconciled, hagain, String.ofList_toList]

/-- Two different texts of equally many lines differ in a line. -/
theorem differingLines_reconciled_pos (h : reconciled m text ≠ text) :
    1 ≤ differingLines text (reconciled m text) := by
  have hlength := Reconcile.length_lines_text_run m.name m.required text.toList
  rw [← toList_reconciled] at hlength
  by_contra hzero
  have hlines := Reconcile.eq_of_differing_eq_zero hlength.symm
    (show differingLines text (reconciled m text) = 0 by omega)
  have htext := congrArg Text.unlines hlines
  rw [Text.unlines_lines, Text.unlines_lines] at htext
  exact h (String.toList_injective htext).symm

/-- What a synchronisation finds, with what it answers and leaves behind. -/
inductive Finding (s : Syncer) (w : Workspace) (name : String) :
    EStateM.Result Fault Workspace Outcome → Prop where
  | unknown {e : Fault} (unknown : s.modelFor? name = none) : Finding s w name (.error e w)
  | unreadable {e : Fault} (unreadable : s.document.IsUnreadable w) : Finding s w name (.error e w)
  | missing {m : Model} {events : List Event} (known : s.modelFor? name = some m)
      (missing : s.document.IsMissing w) :
      Finding s w name (.ok .missingDocument { w with events := events })
  | absent {m : Model} {text : String} {events : List Event} (known : s.modelFor? name = some m)
      (hasText : s.document.HasText w text) (absent : ¬ HasHeading m text) :
      Finding s w name (.ok .noMatchingBlock { w with events := events })
  | settled {m : Model} {text : String} {events : List Event} (known : s.modelFor? name = some m)
      (hasText : s.document.HasText w text) (present : HasHeading m text)
      (same : reconciled m text = text) :
      Finding s w name (.ok .unchanged { w with events := events })
  | updated {m : Model} {text : String} {u : Workspace} (known : s.modelFor? name = some m)
      (hasText : s.document.HasText w text) (present : HasHeading m text)
      (changed : reconciled m text ≠ text) (hasText' : s.document.HasText u (reconciled m text))
      (written : s.document.IsWritten w.files w.directory (reconciled m text).toUTF8 u.files) :
      Finding s w name (.ok (.updated (differingLines text (reconciled m text))) u)

/-- Whether the reconciled text can be written, if it has to be. -/
def CanWrite (s : Syncer) (w : Workspace) (name : String) : Prop :=
  ∀ m text, s.modelFor? name = some m → s.document.HasText w text → reconciled m text ≠ text →
    (s.document.store w.files w.directory (reconciled m text).toUTF8).1 = .ok ()

theorem sync_finding (can : s.CanWrite w name) : Finding s w name (s.sync name w) := by
  cases hmodel : s.modelFor? name with
  | none =>
    obtain ⟨e, he⟩ := model_eq_error_iff.2 hmodel
    rw [sync_of_unknown he]
    exact .unknown hmodel
  | some m =>
    have known := model_eq_ok_iff.2 hmodel
    cases hread : s.document.text? w.files w.directory with
    | error e =>
      rw [sync_of_unreadable known hread]
      exact .unreadable (Document.text?_eq_error_iff.1 ⟨e, hread⟩)
    | ok found =>
      cases found with
      | none =>
        rw [sync_of_missing known hread]
        exact .missing hmodel (Document.text?_eq_ok_none_iff.1 hread)
      | some text =>
        have htext := Document.text?_eq_ok_some_iff.1 hread
        by_cases hpresent : HasHeading m text
        · have houtcome := outcomeFor_of_hasHeading hpresent
          by_cases hsame : reconciled m text = text
          · rw [if_pos hsame] at houtcome
            obtain ⟨events, hsync⟩ := sync_of_settled known hread fun n => by rw [houtcome]; simp
            rw [hsync, houtcome]
            exact .settled hmodel htext hpresent hsame
          · rw [if_neg hsame] at houtcome
            obtain ⟨before, events, hsync⟩ := sync_of_updated known hread houtcome
            rcases s.document.store_cases w.files w.directory (reconciled m text).toUTF8 with
              ⟨canStore, v, hstore, hv⟩ | ⟨-, e, v, hstore, -⟩
            · rw [hsync, hstore]
              refine .updated hmodel htext hpresent hsame ?_ (hv.isWritten canStore)
              exact Document.text?_eq_ok_some_iff.1 (hv.holds canStore)
            · have hdone := can m text hmodel htext hsame
              rw [hstore] at hdone
              simp at hdone
        · have houtcome := outcomeFor_of_not_hasHeading hpresent
          obtain ⟨events, hsync⟩ := sync_of_settled known hread fun n => by rw [houtcome]; simp
          rw [hsync, houtcome]
          exact .absent hmodel htext hpresent

/-! ## What it reports -/

/-- What a synchronisation answers and leaves behind. -/
structure IsReported (s : Syncer) (w : Workspace) (name : String) : Prop where
  /-- It fails exactly if the model is not known or the document cannot be read. -/
  fails_iff : (∃ e u, s.sync name w = .error e u) ↔
    s.modelFor? name = none ∨ s.document.IsUnreadable w
  missing_iff : ∀ m, s.modelFor? name = some m →
    ((∃ u, s.sync name w = .ok .missingDocument u) ↔ s.document.IsMissing w)
  noMatchingBlock_iff : ∀ m, s.modelFor? name = some m →
    ((∃ u, s.sync name w = .ok .noMatchingBlock u) ↔
      ∃ text, s.document.HasText w text ∧ ¬ HasHeading m text)
  /-- It answers that the document is unchanged exactly if there is something to settle and the text is
  the same afterwards. -/
  unchanged_iff : ∀ m, s.modelFor? name = some m →
    ((∃ u, s.sync name w = .ok .unchanged u) ↔
      ∃ text, s.document.HasText w text ∧ HasHeading m text ∧
        s.document.HasText (Action.after (s.sync name) w) text)
  updated_iff : (∃ n u, s.sync name w = .ok (.updated n) u) ↔
    ∃ text text', s.document.HasText w text ∧
      s.document.HasText (Action.after (s.sync name) w) text' ∧ text' ≠ text
  /-- What is counted are the lines that differ, one at least, and nothing but the document is
  written. -/
  updated : ∀ n u, s.sync name w = .ok (.updated n) u →
    ∃ text text', s.document.HasText w text ∧ s.document.HasText u text' ∧
      (Text.lines text'.toList).length = (Text.lines text.toList).length ∧
      n = differingLines text text' ∧ 1 ≤ n ∧
      s.document.IsWritten w.files w.directory text'.toUTF8 u.files
  /-- Whatever else it answers, and if it fails, all files are as they were. -/
  kept : (∀ n u, s.sync name w ≠ .ok (.updated n) u) → (Action.after (s.sync name) w).files = w.files
  /-- Behind an update there is nothing more to do. -/
  again : ∀ n u, s.sync name w = .ok (.updated n) u →
    ∃ v, s.sync name u = .ok .unchanged v ∧ v.files = u.files

section Reports

variable {r : EStateM.Result Fault Workspace Outcome}

theorem Finding.fails_iff (finding : s.Finding w name r) :
    (∃ e u, r = .error e u) ↔ s.modelFor? name = none ∨ s.document.IsUnreadable w := by
  cases finding with
  | unknown unknown => exact ⟨fun _ => .inl unknown, fun _ => ⟨_, _, rfl⟩⟩
  | unreadable unreadable => exact ⟨fun _ => .inr unreadable, fun _ => ⟨_, _, rfl⟩⟩
  | missing known missing => simp [known, missing.not_isUnreadable]
  | absent known hasText => simp [known, hasText.not_isUnreadable]
  | settled known hasText => simp [known, hasText.not_isUnreadable]
  | updated known hasText => simp [known, hasText.not_isUnreadable]

theorem Finding.missing_iff (finding : s.Finding w name r) (hm : s.modelFor? name = some m) :
    (∃ u, r = .ok .missingDocument u) ↔ s.document.IsMissing w := by
  cases finding with
  | unknown unknown => simp [unknown] at hm
  | unreadable unreadable => simpa using fun missing => Document.IsMissing.not_isUnreadable missing unreadable
  | missing known missing => exact ⟨fun _ => missing, fun _ => ⟨_, rfl⟩⟩
  | absent known hasText => simp [hasText.not_isMissing]
  | settled known hasText => simp [hasText.not_isMissing]
  | updated known hasText => simp [hasText.not_isMissing]

theorem Finding.noMatchingBlock_iff (finding : s.Finding w name r) (hm : s.modelFor? name = some m) :
    (∃ u, r = .ok .noMatchingBlock u) ↔ ∃ text, s.document.HasText w text ∧ ¬ HasHeading m text := by
  constructor
  · rintro ⟨u, rfl⟩
    cases finding with
    | absent known hasText absent =>
      obtain rfl := Option.some.inj (known.symm.trans hm)
      exact ⟨_, hasText, absent⟩
  · rintro ⟨text, hasText, absent⟩
    cases finding with
    | unknown unknown => simp [unknown] at hm
    | unreadable unreadable => exact absurd unreadable hasText.not_isUnreadable
    | missing known missing => exact absurd missing hasText.not_isMissing
    | absent known => exact ⟨_, rfl⟩
    | settled known hasText' present =>
      obtain rfl := Option.some.inj (known.symm.trans hm)
      rw [hasText.eq hasText'] at present
      exact absurd present absent
    | updated known hasText' present =>
      obtain rfl := Option.some.inj (known.symm.trans hm)
      rw [hasText.eq hasText'] at present
      exact absurd present absent

/-- Without an update nothing is new but what was reported on the way. -/
theorem Finding.kept (finding : s.Finding w name r) (hr : s.sync name w = r)
    (hne : ∀ n u, r ≠ .ok (.updated n) u) :
    ∃ events, Action.after (s.sync name) w = { w with events := events } := by
  cases finding with
  | unknown => exact ⟨w.events, Action.after_of_error hr⟩
  | unreadable => exact ⟨w.events, Action.after_of_error hr⟩
  | missing => exact ⟨_, Action.after_of_ok hr⟩
  | absent => exact ⟨_, Action.after_of_ok hr⟩
  | settled => exact ⟨_, Action.after_of_ok hr⟩
  | updated => exact absurd rfl (hne _ _)

theorem Finding.unchanged_iff (finding : s.Finding w name r) (hr : s.sync name w = r)
    (hm : s.modelFor? name = some m) :
    (∃ u, r = .ok .unchanged u) ↔ ∃ text, s.document.HasText w text ∧ HasHeading m text ∧
      s.document.HasText (Action.after (s.sync name) w) text := by
  constructor
  · rintro ⟨u, rfl⟩
    cases finding with
    | settled known hasText present =>
      obtain rfl := Option.some.inj (known.symm.trans hm)
      rw [Action.after_of_ok hr]
      exact ⟨_, hasText, present, hasText⟩
  · rintro ⟨text, hasText, present, hafter⟩
    cases finding with
    | unknown unknown => simp [unknown] at hm
    | unreadable unreadable => exact absurd unreadable hasText.not_isUnreadable
    | missing known missing => exact absurd missing hasText.not_isMissing
    | absent known hasText' absent =>
      obtain rfl := Option.some.inj (known.symm.trans hm)
      rw [hasText.eq hasText'] at absent
      exact absurd present absent
    | settled => exact ⟨_, rfl⟩
    | updated known hasText' _ changed hasTextAfter =>
      rw [Action.after_of_ok hr] at hafter
      exact absurd ((hafter.eq hasTextAfter).trans (hasText'.eq hasText)) changed

theorem Finding.updated_iff (finding : s.Finding w name r) (hr : s.sync name w = r) :
    (∃ n u, r = .ok (.updated n) u) ↔ ∃ text text', s.document.HasText w text ∧
      s.document.HasText (Action.after (s.sync name) w) text' ∧ text' ≠ text := by
  constructor
  · rintro ⟨n, u, rfl⟩
    cases finding with
    | updated _ hasText _ changed hasTextAfter =>
      rw [Action.after_of_ok hr]
      exact ⟨_, _, hasText, hasTextAfter, changed⟩
  · rintro ⟨text, text', hasText, hafter, hne⟩
    by_contra hnone
    push Not at hnone
    obtain ⟨events, hevents⟩ := finding.kept hr hnone
    rw [hevents] at hafter
    exact hne (hasText.eq hafter)

/-- **Behind an update there is nothing more to do.** -/
theorem sync_reconciled {u : Workspace} (hm : s.modelFor? name = some m) (present : HasHeading m text)
    (hasText : s.document.HasText u (reconciled m text)) :
    ∃ v, s.sync name u = .ok .unchanged v ∧ v.files = u.files := by
  have hread := Document.text?_eq_ok_some_iff.2 hasText
  have houtcome := outcomeFor_of_hasHeading (hasHeading_reconciled present)
  rw [if_pos (reconciled_reconciled m text)] at houtcome
  obtain ⟨events, hsync⟩ := sync_of_settled (model_eq_ok_iff.2 hm) hread fun n => by
    rw [houtcome]
    simp
  rw [houtcome] at hsync
  exact ⟨_, hsync, rfl⟩

end Reports

/-- **What a synchronisation answers is what it did.** -/
theorem isReported_sync (s : Syncer) (w : Workspace) (name : String) (can : s.CanWrite w name) :
    s.IsReported w name := by
  have finding := sync_finding can
  refine
    { fails_iff := finding.fails_iff
      missing_iff := fun m hm => finding.missing_iff hm
      noMatchingBlock_iff := fun m hm => finding.noMatchingBlock_iff hm
      unchanged_iff := fun m hm => finding.unchanged_iff rfl hm
      updated_iff := finding.updated_iff rfl
      updated := fun n u hsync => ?_
      kept := fun hne => ?_
      again := fun n u hsync => ?_ }
  · rw [hsync] at finding
    cases finding with
    | @updated m text _ _ hasText _ changed hasTextAfter written =>
      have hlength := Reconcile.length_lines_text_run m.name m.required text.toList
      rw [← toList_reconciled] at hlength
      exact ⟨text, reconciled m text, hasText, hasTextAfter, hlength, rfl,
        differingLines_reconciled_pos changed, written⟩
  · obtain ⟨events, hevents⟩ := finding.kept rfl hne
    rw [hevents]
  · rw [hsync] at finding
    cases finding with
    | updated hm _ present _ hasTextAfter => exact sync_reconciled hm present hasTextAfter

/-- The interface of a model, with a question mark to be settled. -/
def markedPost : String := "interface Post \x7b\n  title?: string;\n\x7d\n"

/-- A document in the root that is updated once. -/
theorem isReported_sync_post :
    let s : Syncer := ⟨Document.inRoot, some posts, false⟩
    let w := Document.onlyInRoot (some markedPost)
    s.CanWrite w "post" ∧ s.IsReported w "post" ∧ ∃ u, s.sync "post" w = .ok (.updated 1) u := by
  intro s w
  have hread : s.document.text? w.files w.directory = .ok (some markedPost) :=
    Document.holdsIn_onlyInRoot (some markedPost)
  have hasText := Document.text?_eq_ok_some_iff.1 hread
  have known : s.modelFor? "post" = some post := rfl
  have hstore : (s.document.store w.files w.directory (reconciled post markedPost).toUTF8).1 = .ok () := by
    decide +kernel
  have can : s.CanWrite w "post" := by
    intro m text hm htext _
    obtain rfl := Option.some.inj (known.symm.trans hm)
    rw [hasText.eq htext]
    exact hstore
  refine ⟨can, isReported_sync s w "post" can, ?_⟩
  have houtcome : outcomeFor post markedPost = .updated 1 := by decide +kernel
  obtain ⟨before, after, hsync⟩ := sync_of_updated (model_eq_ok_iff.2 known) hread houtcome
  rcases hstored : s.document.store w.files w.directory (reconciled post markedPost).toUTF8 with
    ⟨done, files⟩
  rw [hstored] at hstore hsync
  obtain rfl : done = .ok () := hstore
  exact ⟨_, hsync⟩

/-- A file stands where the document should have its directory. -/
def fileInTheWay : Workspace :=
  { Document.onlyInRoot none with
    files := ⟨[(["types"], .file "file in the way".toUTF8 FileTree.newFileMode)]⟩ }

/-- **A document that cannot be there is not missing** if its path leads through a file: to look for it
is a failure. -/
theorem sync_fails_below_file :
    let s : Syncer := ⟨⟨"types/models.d.ts"⟩, some posts, false⟩
    s.modelFor? "post" = some post ∧ s.CanWrite fileInTheWay "post" ∧
      fileInTheWay.files.isPresent fileInTheWay.directory s.document.path = false ∧
      s.sync "post" fileInTheWay = .error (.io .notADirectory) fileInTheWay := by
  intro s
  have known : s.modelFor? "post" = some post := rfl
  have hread : s.document.text? fileInTheWay.files fileInTheWay.directory =
      .error (.io .notADirectory) := by
    decide
  have can : s.CanWrite fileInTheWay "post" := by
    intro m text _ htext _
    rw [Document.text?_eq_ok_some_iff.2 htext] at hread
    simp at hread
  exact ⟨known, can, by decide, sync_of_unreadable (model_eq_ok_iff.2 known) hread⟩

end Syncer
end InterfaceSync
