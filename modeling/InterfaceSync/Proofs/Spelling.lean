import InterfaceSync.Proofs.Atomicity
import InterfaceSync.Proofs.Catalogue
import InterfaceSync.Proofs.Naming
import InterfaceSync.Proofs.Outline

/-!
# Spellings of the name of a model

A model is looked up under the key of its name, and its interface is generated and found again under the
name of the interface.  Both come from the words of the name, so spellings with the same key lead to the
same interface (`pascal_eq_of_snake_eq`).  What was generated under one spelling is found under every
other one, whatever stands in front of it in the document.

* `heading_mem_lines_append`: the heading of an interface that was appended is a line of the document.
* `isReady_of_generate`: a document is ready once an interface was appended.
* `spellings_agree`: spellings lead to the same interface, and what was generated is found.
-/

namespace InterfaceSync

open Text

/-! ## The name of the interface -/

/-- Names with the same key have the same interface. -/
theorem Naming.pascal_eq_of_snake_eq {a b : String} (ha : IsAsciiLine a.toList)
    (hb : IsAsciiLine b.toList) (h : snake a = snake b) : pascal a = pascal b := by
  rw [pascal_eq_flatMap_loweredWords ha, pascal_eq_flatMap_loweredWords hb,
    loweredWords_eq_of_snake_eq ha hb h]

/-- A name under which a model is found has the key of the model. -/
theorem Syncer.key_eq_of_model_eq_ok {s : Syncer} {name : String} {m : Model}
    (h : s.model name = .ok m) : m.key = Naming.snake name := by
  unfold Syncer.model at h
  split at h
  · rename_i c _
    exact Catalogue.key_eq_of_find? (Catalogue.get_eq_ok_iff.1 h)
  · simp at h

/-! ## The heading of an interface that was appended -/

/-- The heading is a line of the document, also if the line in front of the interface is not ended. -/
theorem Chunk.heading_mem_lines_append (text : List Char) {modelName : String}
    (hname : '\n' ∉ (Naming.pascal modelName).toList) (declarations : List Declaration)
    (exported : Bool) : heading modelName exported ∈
      Text.lines (text ++ (Definitions.interfaceText modelName declarations exported).toList) := by
  have hfeed : EndsInFeed (text ++ (comment ("for " ++ modelName)).text) := by
    refine .inr ?_
    rw [text_comment, ← List.append_assoc, ← List.append_assoc, List.getLast?_concat]
  have htext : (Definitions.interfaceText modelName declarations exported).toList =
      (comment ("for " ++ modelName)).text ++ ((heading modelName exported).text ++
        unlines (declarations.map Declaration.docLine ++ [closing])) := by
    rw [interfaceText_eq_text, ← unlines_lines]
    rfl
  rw [htext, ← List.append_assoc, lines_append_of_endsInFeed hfeed,
    lines_text_append (isEnded_heading hname exported)]
  exact List.mem_append_right _ List.mem_cons_self

/-! ## Generating and synchronising -/

namespace Syncer

variable {s : Syncer} {w u : Workspace} {m : Model}

/-- **A document is ready once an interface was appended.** -/
theorem isReady_of_generate {held : Option String}
    (hread : s.document.text? w.files w.directory = .ok held) {name : String} {fields : List Field}
    {answer : String} (h : s.generate name fields w = .ok answer u) :
    s.document.IsReady u (held.getD "" ++ s.interfaceText name fields) := by
  have hextend : s.document.extend w.files w.directory (s.interfaceText name fields) =
      s.document.store w.files w.directory (held.getD "" ++ s.interfaceText name fields).toUTF8 := by
    have happend : (held.getD "").toUTF8 ++ (s.interfaceText name fields).toUTF8 =
        (held.getD "" ++ s.interfaceText name fields).toUTF8 := String.toByteArray_append.symm
    rw [Document.extend, Document.bytes_of_text? hread]
    simp only [happend]
  rw [generate_eq, hextend] at h
  rcases s.document.store_cases w.files w.directory
      (held.getD "" ++ s.interfaceText name fields).toUTF8 with
    ⟨can, v, hstore, hv⟩ | ⟨-, e, v, hstore, -⟩
  · rw [hstore] at h
    obtain ⟨-, rfl⟩ := EStateM.Result.ok.inj h
    exact ⟨hv.holds can, can.of_isStored hv⟩
  · rw [hstore] at h
    simp at h

/-- If there is a block, the document is updated or there is nothing to change. -/
theorem outcomeFor_of_blockFound {text : String}
    (h : (Reconcile.run m.name m.required text.toList).blockFound = true) :
    outcomeFor m text = .unchanged ∨ ∃ n, outcomeFor m text = .updated n := by
  rw [outcomeFor, outcome, h]
  simp only [Bool.not_true, Bool.false_eq_true, if_false]
  split
  · exact .inl rfl
  · exact .inr ⟨_, rfl⟩

/-- **Spellings of a name lead to the same interface.**  Names with the same key have the same interface,
and once the interface of a model was generated under one spelling, the document is synchronised with the
model under every spelling, and the block is found. -/
theorem spellings_agree :
    (∀ a b : String, IsAsciiLine a.toList → IsAsciiLine b.toList →
      Naming.snake a = Naming.snake b → Naming.pascal a = Naming.pascal b) ∧
    ∀ (s : Syncer) (w u : Workspace) (m : Model) (a b : String) (fields : List Field)
      (held : Option String) (answer : String),
      IsAsciiLine m.name.toList → IsAsciiLine a.toList →
      s.model a = .ok m → s.model b = .ok m →
      s.document.text? w.files w.directory = .ok held →
      s.generate a fields w = .ok answer u →
      ∃ result v, s.sync b u = .ok result v ∧
        (result = .unchanged ∨ ∃ n, result = .updated n) := by
  refine ⟨fun a b ha hb h => Naming.pascal_eq_of_snake_eq ha hb h, ?_⟩
  intro s w u m a b fields held answer hm ha knownA knownB hread hgenerate
  have hready := isReady_of_generate hread hgenerate
  obtain ⟨v, hsync, -⟩ := sync_of_ready knownB hready
  refine ⟨_, v, hsync, outcomeFor_of_blockFound ?_⟩
  have hpascal : Naming.pascal a = Naming.pascal m.name :=
    Naming.pascal_eq_of_snake_eq ha hm (key_eq_of_model_eq_ok knownA).symm
  have hfeed : '\n' ∉ (Naming.pascal a).toList := fun hmem =>
    (Naming.isAsciiLine_pascal ha '\n' hmem).2 rfl
  have hmem := Chunk.heading_mem_lines_append (held.getD "").toList hfeed
    (Declaration.ofFields fields) s.exported
  have hheading := Chunk.isHeading_heading a s.exported
  rw [hpascal] at hheading
  refine Reconcile.blockFound_run_of_mem m.required ?_ hheading
  rw [String.toList_append]
  exact hmem

/-- A syncer for two models and a document in the root. -/
def blogSyncer : Syncer := ⟨Document.inRoot, some blog, true⟩

/-- An interface behind a line that is not ended, under a name that is not the one of the model. -/
theorem spellings_agree_remark :
    Naming.pascal "Post Remark" = Naming.pascal "post-remark" ∧
      ∃ answer u, blogSyncer.generate "Post Remark" remark.fields
          (Document.onlyInRoot (some "// remarks")) = .ok answer u ∧
        ∃ result v, blogSyncer.sync "postRemark" u = .ok result v ∧
          (result = .unchanged ∨ ∃ n, result = .updated n) := by
  have hdone : (match blogSyncer.generate "Post Remark" remark.fields
      (Document.onlyInRoot (some "// remarks")) with | .ok _ _ => true | .error _ _ => false) = true := by
    decide +kernel
  have hspelled : IsAsciiLine "Post Remark".toList := by decide
  refine ⟨spellings_agree.1 _ _ hspelled (by decide) (by decide), ?_⟩
  cases hgenerate : blogSyncer.generate "Post Remark" remark.fields
      (Document.onlyInRoot (some "// remarks")) with
  | error e u =>
    rw [hgenerate] at hdone
    simp at hdone
  | ok answer u =>
    have hread : Document.inRoot.text? (Document.onlyInRoot (some "// remarks")).files [] =
        .ok (some "// remarks") := Document.holdsIn_onlyInRoot (some "// remarks")
    exact ⟨answer, u, rfl, spellings_agree.2 blogSyncer _ u remark "Post Remark" "postRemark" _ _ answer
      (by decide) hspelled (by decide) (by decide) hread hgenerate⟩

end Syncer
end InterfaceSync
