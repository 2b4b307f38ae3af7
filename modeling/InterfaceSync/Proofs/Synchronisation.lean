import InterfaceSync.Commands
import InterfaceSync.Proofs.Reconcile.Independence
import InterfaceSync.Proofs.Session

/-!
# Synchronising a document with several models

A document is synchronised with models one after the other, and the first failure ends everything.  One
synchronisation looks the model up, reads the document and writes it if the text changes.

* `sync_of_unknown`, `sync_of_unreadable`, `sync_of_missing`, `sync_of_settled`, `sync_of_updated`: what
  a synchronisation does, by what it finds.
* `IsReady`, `sync_of_ready`, `syncAll_of_ready`: a document that holds a text and can be written is
  reconciled with all the models.
* `syncAll_leaves_held`: a document that cannot be written is left with the text that it holds.
* `syncAll_congr`: the order of the names makes no difference, nor how often each of them occurs.
-/

namespace InterfaceSync

/-- A document that holds a text and can be written. -/
structure Document.IsReady (doc : Document) (w : Workspace) (text : String) : Prop where
  holds : doc.HoldsIn w (some text)
  canStore : doc.CanStore w.files w.directory

namespace Syncer

variable {s : Syncer} {w : Workspace} {name text : String} {m : Model} {held : Option String}

/-! ## One model -/

/-- What becomes of a document with a text when it is synchronised with a model. -/
def outcomeFor (m : Model) (text : String) : Outcome :=
  outcome text (Reconcile.run m.name m.required text.toList)

/-- A model that is not known is a failure before the document is looked at. -/
theorem sync_of_unknown {e : Fault} (unknown : s.model name = .error e) (w : Workspace) :
    s.sync name w = .error e w := by
  rw [sync, unknown]
  exact Action.bind_of_error (Action.ofExcept_error e w) _

theorem sync_of_unreadable {e : Fault} (known : s.model name = .ok m)
    (hread : s.document.text? w.files w.directory = .error e) : s.sync name w = .error e w := by
  have hfailed : s.document.read w = .error e w := by rw [Document.read_eq, hread]
  rw [sync, known, Action.bind_of_ok (Action.ofExcept_ok m w)]
  exact Action.bind_of_error hfailed _

theorem sync_of_missing (known : s.model name = .ok m)
    (hread : s.document.text? w.files w.directory = .ok none) :
    s.sync name w = .ok .missingDocument
      { w with events := w.events ++ [.reconciled .missingDocument] } := by
  have hdone : s.document.read w = .ok none w := by rw [Document.read_eq, hread]
  rw [sync, known, Action.bind_of_ok (Action.ofExcept_ok m w), Action.bind_of_ok hdone]
  rfl

/-- A text that is read is settled, and the outcome is reported. -/
theorem sync_of_text (known : s.model name = .ok m)
    (hread : s.document.text? w.files w.directory = .ok (some text)) :
    s.sync name w = (s.settle m text >>= fun result =>
      Action.report (.reconciled result) >>= fun _ => pure result) w := by
  have hdone : s.document.read w = .ok (some text) w := by rw [Document.read_eq, hread]
  rw [sync, known, Action.bind_of_ok (Action.ofExcept_ok m w), Action.bind_of_ok hdone]

/-- If the text stays as it is, nothing is written. -/
theorem sync_of_settled (known : s.model name = .ok m)
    (hread : s.document.text? w.files w.directory = .ok (some text))
    (hkept : ∀ n, outcomeFor m text ≠ .updated n) :
    ∃ events, s.sync name w = .ok (outcomeFor m text) { w with events := events } := by
  obtain ⟨events, hsettle⟩ := s.settle_eq m text w
  have hdone : s.settle m text w = .ok (outcomeFor m text) { w with events := events } := by
    rw [hsettle]
    split
    · rename_i n hn
      exact absurd hn (hkept n)
    · rfl
  refine ⟨events ++ [.reconciled (outcomeFor m text)], ?_⟩
  rw [sync_of_text known hread, Action.bind_of_ok hdone]
  rfl

/-- If the text changes, the reconciled text is put into the document. -/
theorem sync_of_updated (known : s.model name = .ok m)
    (hread : s.document.text? w.files w.directory = .ok (some text)) {n : ℕ}
    (hupdated : outcomeFor m text = .updated n) :
    ∃ before after, s.sync name w =
      match s.document.store w.files w.directory (reconciled m text).toUTF8 with
      | (.ok (), files) => .ok (.updated n) { w with files := files, events := after }
      | (.error e, files) => .error e { w with files := files, events := before } := by
  obtain ⟨events, hsettle⟩ := s.settle_eq m text w
  have hdone : s.settle m text w = (s.document.replace (reconciled m text) >>= fun _ =>
      pure (.updated n)) { w with events := events } := by
    rw [hsettle]
    split
    · rename_i n' hn
      rw [outcomeFor, hn] at hupdated
      rw [hupdated]
    · rename_i hne
      exact absurd hupdated (hne n)
  have hreplace := Document.replace_eq s.document (reconciled m text) { w with events := events }
  refine ⟨events, events ++ [.reconciled (.updated n)], ?_⟩
  rw [sync_of_text known hread]
  simp only at hreplace
  rcases hstore : s.document.store w.files w.directory (reconciled m text).toUTF8 with
    ⟨e | ⟨⟨⟩⟩, files⟩
  · rw [hstore] at hreplace
    rw [Action.bind_of_error (hdone.trans (Action.bind_of_error hreplace _))]
  · rw [hstore] at hreplace
    rw [Action.bind_of_ok (hdone.trans (Action.bind_of_ok hreplace _))]
    rfl

/-- **A document that is ready is reconciled with the model**, and is ready again. -/
theorem sync_of_ready (known : s.model name = .ok m) (h : s.document.IsReady w text) :
    ∃ u, s.sync name w = .ok (outcomeFor m text) u ∧ s.document.IsReady u (reconciled m text) := by
  by_cases hkept : ∀ n, outcomeFor m text ≠ .updated n
  · obtain ⟨events, hsync⟩ := sync_of_settled known h.holds hkept
    refine ⟨_, hsync, ?_, h.canStore⟩
    rw [reconciled_of_outcome_ne hkept]
    exact h.holds
  · push Not at hkept
    obtain ⟨n, hupdated⟩ := hkept
    obtain ⟨before, after, hsync⟩ := sync_of_updated known h.holds hupdated
    rcases s.document.store_cases w.files w.directory (reconciled m text).toUTF8 with
      ⟨can, files, hstore, hfiles⟩ | ⟨cannot, -⟩
    · rw [hstore, ← hupdated] at hsync
      exact ⟨_, hsync, hfiles.holds can, can.of_isStored hfiles⟩
    · exact absurd h.canStore cannot

/-- A document that cannot be written is left with its text, and a synchronisation that succeeds writes
nothing. -/
theorem sync_of_not_canStore (h : s.document.HoldsIn w (some text))
    (cannot : ¬ s.document.CanStore w.files w.directory) (name : String) :
    (∃ result events, s.sync name w = .ok result { w with events := events }) ∨
      (∃ e u, s.sync name w = .error e u ∧ s.document.HoldsIn u (some text)) := by
  rcases sync_cases h name with ⟨m, result, u, known, hdone, -⟩ | hfailed
  · by_cases hkept : ∀ n, outcomeFor m text ≠ .updated n
    · obtain ⟨events, hsync⟩ := sync_of_settled known h hkept
      exact .inl ⟨_, events, hsync⟩
    · push Not at hkept
      obtain ⟨n, hupdated⟩ := hkept
      obtain ⟨before, after, hsync⟩ := sync_of_updated known h hupdated
      rcases s.document.store_cases w.files w.directory (reconciled m text).toUTF8 with
        ⟨can, -⟩ | ⟨-, e, files, hstore, -⟩
      · exact absurd can cannot
      · rw [hstore, hdone] at hsync
        simp at hsync
  · exact .inr hfailed

/-! ## Several models -/

open Commands (syncAll)

/-- A text once it was reconciled with models, one after the other. -/
def reconciledAll (models : List Model) (text : String) : String :=
  String.ofList (Reconcile.runAll models text.toList)

theorem reconciledAll_nil (text : String) : reconciledAll [] text = text :=
  String.ofList_toList

theorem reconciledAll_cons (m : Model) (rest : List Model) (text : String) :
    reconciledAll (m :: rest) text = reconciledAll rest (reconciled m text) := by
  rw [reconciledAll, reconciledAll, reconciled, String.toList_ofList]
  rfl

theorem syncAll_cons_of_ok {result : Outcome} {u : Workspace} (h : s.sync name w = .ok result u)
    (rest : List String) :
    syncAll s (name :: rest) w =
      syncAll s rest { u with events := u.events ++ [.synced name result] } := by
  rw [syncAll, Action.bind_of_ok h, Action.bind_of_ok (Action.report_apply _ u)]

theorem syncAll_cons_of_error {e : Fault} {u : Workspace} (h : s.sync name w = .error e u)
    (rest : List String) : syncAll s (name :: rest) w = .error e u := by
  rw [syncAll, Action.bind_of_error h]

/-- What holds behind every synchronisation, and is not about events, holds behind all of them. -/
theorem after_syncAll {P Q : Workspace → Prop} (ends : ∀ w, P w → Q w)
    (step : ∀ name w, P w →
      (∃ result u, s.sync name w = .ok result u ∧ ∀ events, P { u with events := events }) ∨
        (∃ e u, s.sync name w = .error e u ∧ Q u))
    (h : P w) (names : List String) : Q (Action.after (syncAll s names) w) := by
  induction names generalizing w with
  | nil => exact ends w h
  | cons name rest ih =>
    rcases step name w h with ⟨result, u, hdone, hu⟩ | ⟨e, u, hfailed, hu⟩
    · rw [Action.after, syncAll_cons_of_ok hdone]
      exact ih (hu _)
    · rwa [Action.after_of_error (syncAll_cons_of_error hfailed rest)]

/-- **A document that is ready is reconciled with all the models**, in their order. -/
theorem syncAll_of_ready {names : List String} {models : List Model}
    (known : names.map s.model = models.map .ok) (h : s.document.IsReady w text) :
    ∃ u, syncAll s names w = .ok () u ∧ s.document.IsReady u (reconciledAll models text) := by
  induction names generalizing w text models with
  | nil =>
    obtain rfl : models = [] := by simpa using known.symm
    exact ⟨w, rfl, by rwa [reconciledAll_nil]⟩
  | cons name rest ih =>
    obtain ⟨m, models, rfl, hm, hrest⟩ := List.map_eq_cons_iff.1 known.symm
    obtain ⟨u, hsync, hu⟩ := sync_of_ready hm.symm h
    have hreported : s.document.IsReady
        { u with events := u.events ++ [.synced name (outcomeFor m text)] } (reconciled m text) :=
      ⟨hu.holds, hu.canStore⟩
    obtain ⟨v, hall, hv⟩ := ih hrest.symm hreported
    refine ⟨v, ?_, ?_⟩
    · rw [syncAll_cons_of_ok hsync, hall]
    · rwa [reconciledAll_cons]

/-- A document that holds nothing holds nothing afterwards. -/
theorem syncAll_leaves_nothing (h : s.document.HoldsIn w none) (names : List String) :
    s.document.HoldsIn (Action.after (syncAll s names) w) none := by
  refine after_syncAll (P := fun w => s.document.HoldsIn w none) (fun _ => id) (fun name w hw => ?_) h
    names
  rcases sync_cases hw name with ⟨m, result, u, -, hdone, hu⟩ | hfailed
  · exact .inl ⟨result, u, hdone, fun _ => hu⟩
  · exact .inr hfailed

/-- **A document that cannot be written is left with the text that it holds.** -/
theorem syncAll_leaves_held (h : s.document.HoldsIn w (some text))
    (cannot : ¬ s.document.CanStore w.files w.directory) (names : List String) :
    s.document.HoldsIn (Action.after (syncAll s names) w) (some text) := by
  refine after_syncAll
    (P := fun w => s.document.HoldsIn w (some text) ∧ ¬ s.document.CanStore w.files w.directory)
    (fun _ hw => hw.1) (fun name w hw => ?_) ⟨h, cannot⟩ names
  rcases sync_of_not_canStore hw.1 hw.2 name with ⟨result, events, hdone⟩ | hfailed
  · exact .inl ⟨result, _, hdone, fun _ => hw⟩
  · exact .inr hfailed

/-- **The order of the names makes no difference, nor how often each of them occurs**, if the targets of
the models share no line.  The names may be any spellings of the names of the models. -/
theorem syncAll_congr {names others : List String} {models otherModels : List Model}
    (known : names.map s.model = models.map .ok)
    (otherKnown : others.map s.model = otherModels.map .ok)
    (same : ∀ m, m ∈ models ↔ m ∈ otherModels) (h : s.document.HoldsIn w held)
    (apart : ∀ text ∈ held, Reconcile.AreApart models text.toList) :
    ∃ after, s.document.HoldsIn (Action.after (syncAll s names) w) after ∧
      s.document.HoldsIn (Action.after (syncAll s others) w) after := by
  cases held with
  | none => exact ⟨none, syncAll_leaves_nothing h names, syncAll_leaves_nothing h others⟩
  | some text =>
    by_cases can : s.document.CanStore w.files w.directory
    · obtain ⟨u, hnames, hu⟩ := syncAll_of_ready known ⟨h, can⟩
      obtain ⟨v, hothers, hv⟩ := syncAll_of_ready otherKnown ⟨h, can⟩
      have hsame : reconciledAll otherModels text = reconciledAll models text := by
        rw [reconciledAll, ← Reconcile.runAll_congr same (apart text rfl), reconciledAll]
      rw [hsame] at hv
      refine ⟨some (reconciledAll models text), ?_, ?_⟩
      · rw [Action.after_of_ok hnames]
        exact hu.holds
      · rw [Action.after_of_ok hothers]
        exact hv.holds
    · exact ⟨some text, syncAll_leaves_held h can names, syncAll_leaves_held h can others⟩

/-! ## Two models in one document -/

/-- A model with a required field and a name of two words. -/
def remark : Model where
  name := "post_remark"
  fields := [⟨"body", .unspecified, none⟩]
  validations := [⟨.presence, ["body"]⟩]
  associations := []

/-- A catalogue with two models. -/
def blog : Catalogue where
  models := [post, remark]
  sorted := by
    have hlt : post.key < remark.key := by decide
    simpa using hlt

/-- The interfaces of the two models, one behind the other. -/
def blogText : String :=
  "interface PostRemark \x7b\n  body?: string;\n\x7d\n" ++
    "export interface Post \x7b\n  title?: string;\n\x7d\n"

theorem inTarget_remark (i : ℕ) :
    Reconcile.InTarget remark.interfaceName.toList (Text.lines blogText.toList) i ↔ 0 ≤ i ∧ i ≤ 2 := by
  refine Reconcile.inTarget_iff_of_closes ⟨?_, ?_⟩ ?_ ?_ i
  · simp only [← Heading.opens_eq_true_iff]
    decide
  · exact fun j hj => absurd hj (Nat.not_lt_zero j)
  · unfold Reconcile.Closes
    decide
  · unfold Reconcile.Closes
    decide

theorem inTarget_post (i : ℕ) :
    Reconcile.InTarget post.interfaceName.toList (Text.lines blogText.toList) i ↔ 3 ≤ i ∧ i ≤ 5 := by
  refine Reconcile.inTarget_iff_of_closes ⟨?_, ?_⟩ ?_ ?_ i
  · simp only [← Heading.opens_eq_true_iff]
    decide
  · simp only [← Heading.opens_eq_true_iff]
    decide
  · unfold Reconcile.Closes
    decide
  · unfold Reconcile.Closes
    decide

theorem areApart_blogText : Reconcile.AreApart [post, remark, post] blogText.toList := by
  have htwo : ∀ m ∈ [post, remark, post], m = post ∨ m = remark := by
    rw [List.forall_mem_cons, List.forall_mem_cons, List.forall_mem_singleton]
    exact ⟨.inl rfl, .inr rfl, .inl rfl⟩
  intro m hm other hother hne i hi hi'
  rcases htwo m hm with rfl | rfl
  · rcases htwo other hother with rfl | rfl
    · exact hne rfl
    · rw [inTarget_post] at hi
      rw [inTarget_remark] at hi'
      omega
  · rcases htwo other hother with rfl | rfl
    · rw [inTarget_remark] at hi
      rw [inTarget_post] at hi'
      omega
    · exact hne rfl

/-- Two models in either order, one of them twice and under two spellings. -/
theorem syncAll_congr_blog :
    ∃ after, Document.inRoot.HoldsIn (Action.after (syncAll ⟨Document.inRoot, some blog, false⟩
        ["Post", "post-remark", "post"]) (Document.onlyInRoot (some blogText))) after ∧
      Document.inRoot.HoldsIn (Action.after (syncAll ⟨Document.inRoot, some blog, false⟩
        ["PostRemark", "post"]) (Document.onlyInRoot (some blogText))) after := by
  have known : ["Post", "post-remark", "post"].map (model ⟨Document.inRoot, some blog, false⟩) =
      [post, remark, post].map .ok := by
    decide
  have otherKnown : ["PostRemark", "post"].map (model ⟨Document.inRoot, some blog, false⟩) =
      [remark, post].map .ok := by
    decide
  refine syncAll_congr known otherKnown (fun m => ?_) (Document.holdsIn_onlyInRoot (some blogText)) ?_
  · simp only [List.mem_cons, List.not_mem_nil, or_false]
    constructor
    · rintro (hpost | hremark | hpost)
      · exact .inr hpost
      · exact .inl hremark
      · exact .inr hpost
    · rintro (hremark | hpost)
      · exact .inr (.inl hremark)
      · exact .inl hpost
  · rintro text ⟨⟩
    exact areApart_blogText

end Syncer
end InterfaceSync
