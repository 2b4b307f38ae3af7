import InterfaceSync.Proofs.Outline
import InterfaceSync.Proofs.Session

/-!
# Sessions on outlines

The operations can be understood without any text: on an outline, generating and migrating add a chunk at
the end, and synchronising settles the first block of the interface.  What a session makes of a document
is the text of what it makes of its outline, as long as all names are plain and none of the names that
are used goes on with `extends` from another one.

* `Syncer.redraw`, `outlineOf`: the operations and sessions on outlines.
* `IsPlainSession`: what is asked of the names, and of the text from before.
* `Syncer.Effect.outline`: one step.
* `session_outline`: all the steps.
-/

namespace InterfaceSync

open Text

/-! ## Plain fields -/

/-- A field with a name as attributes give it, and a plain target if it has one. -/
structure Field.IsPlain (f : Field) : Prop where
  name_isFieldName : IsFieldName f.name.toList
  target_isPlain : ∀ target ∈ f.target, InterfaceSync.IsPlain target.toList

theorem Field.IsPlain.objectType_isPlain {f : Field} (h : f.IsPlain) :
    InterfaceSync.IsPlain f.objectType.toList := by
  refine Naming.isPlain_pascal ?_
  cases htarget : f.target with
  | none => exact h.name_isFieldName.isPlain
  | some target => exact h.target_isPlain target htarget

theorem isPlain_typeScript (t : FieldType) : IsPlain t.typeScript.toList := by
  cases t with
  | boolean => exact (by decide : IsPlain "boolean".toList)
  | integer | float | decimal => exact (by decide : IsPlain "number".toList)
  | reference | other => exact (by decide : IsPlain "string".toList)

/-- The names of the declarations are names of fields if those of the fields are, and the types are the
types of objects or plain. -/
theorem Declaration.of_mem_ofFields {P : List Char → Prop}
    (hplain : ∀ text, InterfaceSync.IsPlain text → P text) {fields : List Field}
    (hfields : ∀ f ∈ fields, IsFieldName f.name.toList ∧ P f.objectType.toList) :
    ∀ d ∈ Declaration.ofFields fields, IsFieldName d.name.toList ∧ P d.type.toList := by
  intro d hd
  obtain ⟨f, hf, hd⟩ := List.mem_flatMap.1 hd
  obtain ⟨hname, hobject⟩ := hfields f hf
  rw [ofField] at hd
  split at hd
  · rw [List.mem_cons, List.mem_singleton] at hd
    rcases hd with rfl | rfl
    · refine ⟨?_, hplain _ (by decide : InterfaceSync.IsPlain "number".toList)⟩
      rw [String.toList_append]
      exact hname.append (by decide)
    · exact ⟨hname, hobject⟩
  · rw [List.mem_singleton.1 hd]
    exact ⟨hname, hplain _ (isPlain_typeScript f.type)⟩

/-- The declarations of plain fields are plain. -/
theorem Declaration.isPlain_of_mem_ofFields {fields : List Field} (plain : ∀ f ∈ fields, f.IsPlain) :
    ∀ d ∈ Declaration.ofFields fields, d.IsPlain := by
  intro d hd
  obtain ⟨hname, htype⟩ := of_mem_ofFields (fun _ => id)
    (fun f hf => ⟨(plain f hf).name_isFieldName, (plain f hf).objectType_isPlain⟩) d hd
  exact ⟨hname, htype⟩

/-- The declarations of fields with names as attributes give them are on one line each, if the types of
the objects are. -/
theorem Declaration.isOneLine_of_mem_ofFields {fields : List Field}
    (hfields : ∀ f ∈ fields, IsFieldName f.name.toList ∧ '\n' ∉ f.objectType.toList) :
    ∀ d ∈ Declaration.ofFields fields, d.IsOneLine := by
  intro d hd
  obtain ⟨hname, htype⟩ := of_mem_ofFields (P := fun type => '\n' ∉ type)
    (fun _ htype => htype.not_mem (by decide)) hfields d hd
  exact ⟨hname, htype⟩

/-! ## Operations on outlines -/

namespace Syncer

/-- What an operation that succeeds makes of an outline. -/
def redraw (s : Syncer) (chunks : List Chunk) : Operation → List Chunk
  | .generate name fields => chunks ++ [.block name (Declaration.ofFields fields) s.exported]
  | .generateKnown name =>
    match s.model name with
    | .ok m => chunks ++ [.block m.name (Declaration.ofFields m.fields) s.exported]
    | .error _ => chunks
  | .migrate label fields => chunks ++ [.migration label (Declaration.ofFields fields)]
  | .sync name =>
    match s.model name with
    | .ok m => settleFirst m.interfaceName m.required chunks
    | .error _ => chunks

/-- The interface that an operation declares or looks for. -/
def interfaceName? (s : Syncer) : Operation → Option String
  | .generate name _ => some (Naming.pascal name)
  | .generateKnown name => (s.model name).toOption.map Model.interfaceName
  | .migrate _ _ => none
  | .sync name => (s.model name).toOption.map Model.interfaceName

/-- An operation whose names are plain and whose label stays on its line. -/
def IsPlain (s : Syncer) : Operation → Prop
  | .generate name fields => InterfaceSync.IsPlain name.toList ∧ ∀ f ∈ fields, f.IsPlain
  | .generateKnown name => ∀ m, s.model name = .ok m →
      InterfaceSync.IsPlain m.name.toList ∧ ∀ f ∈ m.fields, f.IsPlain
  | .migrate label fields => '\n' ∉ label.toList ∧ ∀ f ∈ fields, f.IsPlain
  | .sync name => ∀ m, s.model name = .ok m → InterfaceSync.IsPlain m.name.toList

end Syncer

/-- An outline of plain chunks, whose interfaces are among those that are used. -/
structure IsOutline (used : Set String) (chunks : List Chunk) : Prop where
  isPlain : ∀ c ∈ chunks, c.IsPlain
  interfaceName_mem : ∀ c ∈ chunks, ∀ name ∈ c.interfaceName?, name ∈ used

namespace IsOutline

variable {used : Set String} {chunks : List Chunk}

theorem nil (used : Set String) : IsOutline used [] :=
  ⟨fun _ hc => absurd hc List.not_mem_nil, fun _ hc => absurd hc List.not_mem_nil⟩

theorem concat (h : IsOutline used chunks) {c : Chunk} (plain : c.IsPlain)
    (hname : ∀ name ∈ c.interfaceName?, name ∈ used) : IsOutline used (chunks ++ [c]) where
  isPlain := List.forall_mem_append.2 ⟨h.isPlain, List.forall_mem_singleton.2 plain⟩
  interfaceName_mem :=
    List.forall_mem_append.2 ⟨h.interfaceName_mem, List.forall_mem_singleton.2 hname⟩

theorem settleFirst (h : IsOutline used chunks) (name : String) (required : List String) :
    IsOutline used (settleFirst name required chunks) where
  isPlain := isPlain_settleFirst name required h.isPlain
  interfaceName_mem := by
    intro c hc
    have hmem : c.interfaceName? ∈ chunks.map Chunk.interfaceName? := by
      rw [← map_interfaceName?_settleFirst name required]
      exact List.mem_map_of_mem hc
    obtain ⟨c', hc', hsame⟩ := List.mem_map.1 hmem
    rw [← hsame]
    exact h.interfaceName_mem c' hc'

end IsOutline

/-- **One step**: what an operation makes of a text and an outline behind it is the text and what the
operation makes of the outline. -/
theorem Syncer.Effect.outline {s : Syncer} {operation : Operation} {answer : Option String}
    {before after : String} {chunks : List Chunk} {used : Set String}
    (effect : s.Effect operation answer (before ++ outlineText chunks) after)
    (plain : s.IsPlain operation) (feed : EndsInFeed before.toList)
    (noHeading : ∀ name m, operation = .sync name → s.model name = .ok m →
      ∀ l ∈ lines before.toList, ¬ Heading.IsHeading m.interfaceName.toList l.body)
    (hused : ∀ name ∈ s.interfaceName? operation, name ∈ used)
    (noExtends : ∀ a ∈ used, ∀ b ∈ used, ¬ a.toList ++ "extends".toList <+: b.toList)
    (outline : IsOutline used chunks) :
    after = before ++ outlineText (s.redraw chunks operation) ∧
      IsOutline used (s.redraw chunks operation) := by
  generalize htext : before ++ outlineText chunks = text at effect
  cases effect with
  | generate name fields =>
    have hchunk : (Chunk.block name (Declaration.ofFields fields) s.exported).IsPlain :=
      ⟨plain.1, Declaration.isPlain_of_mem_ofFields plain.2⟩
    refine ⟨?_, outline.concat hchunk hused⟩
    rw [← htext, redraw, outlineText_concat, String.append_assoc, interfaceText,
      Chunk.interfaceText_eq_text]
  | @generateKnown name m known =>
    obtain ⟨hname, hfields⟩ := plain m known
    have hchunk : (Chunk.block m.name (Declaration.ofFields m.fields) s.exported).IsPlain :=
      ⟨hname, Declaration.isPlain_of_mem_ofFields hfields⟩
    rw [interfaceName?, known] at hused
    have hredraw : s.redraw chunks (.generateKnown name) =
        chunks ++ [.block m.name (Declaration.ofFields m.fields) s.exported] := by
      rw [redraw, known]
    rw [hredraw]
    refine ⟨?_, outline.concat hchunk hused⟩
    rw [← htext, outlineText_concat, String.append_assoc, interfaceText, Chunk.interfaceText_eq_text]
  | migrate label fields =>
    have hchunk : (Chunk.migration label (Declaration.ofFields fields)).IsPlain :=
      ⟨plain.1, Declaration.isPlain_of_mem_ofFields plain.2⟩
    refine ⟨?_, outline.concat hchunk hused⟩
    rw [← htext, redraw, outlineText_concat, String.append_assoc, Chunk.migrationText_eq_text]
  | @sync name m known =>
    rw [interfaceName?, known] at hused
    have hmem : m.interfaceName ∈ used := hused _ rfl
    have hredraw : s.redraw chunks (.sync name) =
        InterfaceSync.settleFirst m.interfaceName m.required chunks := by
      rw [redraw, known]
    rw [hredraw]
    refine ⟨?_, outline.settleFirst _ _⟩
    rw [← htext, reconciled, String.toList_append,
      Reconcile.text_run_outline (plain m known) m.required feed (noHeading name m rfl known)
        outline.isPlain
        (fun c hc declared hd => noExtends _ hmem _ (outline.interfaceName_mem c hc declared hd)),
      String.ofList_append, String.ofList_toList, String.ofList_toList]
    rfl

/-! ## Sessions on outlines -/

/-- The interfaces that the steps of a session declare or look for. -/
def usedNames (doc : Document) (steps : List Step) : Set String :=
  {name | ∃ step ∈ steps, name ∈ (step.syncer doc).interfaceName? step.operation}

/-- What is asked of a session and of the text from before: the names are plain, none goes on with
`extends` from another one, and the text is ended and has no heading of an interface that is
synchronised. -/
structure IsPlainSession (doc : Document) (before : String) (steps : List Step) : Prop where
  isPlain : ∀ step ∈ steps, (step.syncer doc).IsPlain step.operation
  noExtends : ∀ a ∈ usedNames doc steps, ∀ b ∈ usedNames doc steps,
    ¬ a.toList ++ "extends".toList <+: b.toList
  feed : EndsInFeed before.toList
  noHeading : ∀ step ∈ steps, ∀ name m, step.operation = .sync name →
    (step.syncer doc).model name = .ok m →
      ∀ l ∈ lines before.toList, ¬ Heading.IsHeading m.interfaceName.toList l.body

/-- **All the steps**: what steps make of a text and an outline behind it is the text and what they make
of the outline. -/
theorem Effects.outline {doc : Document} {log : List (Step × Option String)} {before : String}
    {steps : List Step} (plain : IsPlainSession doc before steps)
    (hlog : ∀ entry ∈ log, entry.1 ∈ steps) {chunks : List Chunk}
    (outline : IsOutline (usedNames doc steps) chunks) {after : String}
    (effects : Effects doc log (before ++ outlineText chunks) after) :
    after = before ++ outlineText
      (log.foldl (fun chunks entry => (entry.1.syncer doc).redraw chunks entry.1.operation) chunks) := by
  induction log generalizing chunks with
  | nil =>
    cases effects
    rfl
  | cons entry log ih =>
    obtain ⟨hentry, hrest⟩ := List.forall_mem_cons.1 hlog
    cases effects with
    | @cons step answer _ _ between _ effect effects =>
      have hused : ∀ name ∈ (step.syncer doc).interfaceName? step.operation,
          name ∈ usedNames doc steps := fun name hname => ⟨step, hentry, hname⟩
      obtain ⟨rfl, hnext⟩ := effect.outline (plain.isPlain step hentry) plain.feed
        (plain.noHeading step hentry) hused plain.noExtends outline
      exact ih hrest hnext effects

end InterfaceSync
