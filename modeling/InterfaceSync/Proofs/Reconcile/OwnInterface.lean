import InterfaceSync.Proofs.Reconcile.Specification
import InterfaceSync.Proofs.Refinement

/-!
# Whose block an interface is

The text that declares the interface of one model is looked through for the block of another one.  The
comment in front of it, the declarations and the closing brace are no headings, whatever the fields are
called.  The heading is one of its own interface; and it is read as one of another interface exactly when
`extends` follows the name of that one within the name that is declared, since nothing need stand in
front of the word (`PostextendsBase` for `Post`).

* `exists_isHeading_block_iff`: the headings in the text of an interface.
* `run_interfaceText_iff`: when the text of an interface is left alone.
-/

namespace InterfaceSync.Reconcile

open Text

variable {name modelName : String} {declarations : List Declaration} {exported : Bool}

/-- A document is left alone exactly when no line of it is a heading. -/
theorem run_eq_absent_iff (name : String) (required : List String) (text : List Char) :
    run name required text = ⟨text, false, 0, false⟩ ↔
      ¬ ∃ l ∈ lines text, Heading.IsHeading (Naming.pascal name).toList l.body := by
  constructor
  · rintro hrun ⟨l, hl, hheading⟩
    have hfound := blockFound_run_of_mem required hl hheading
    rw [hrun] at hfound
    exact Bool.false_ne_true hfound
  · exact fun hnone => run_of_absent fun l hl hheading => hnone ⟨l, hl, hheading⟩

/-- The headings of an interface in the text of an interface. -/
theorem exists_isHeading_block_iff (hname : IsPlain name.toList) (hmodel : IsPlain modelName.toList)
    (oneLine : ∀ d ∈ declarations, d.IsOneLine) :
    (∃ l ∈ (Chunk.block modelName declarations exported).lines,
        Heading.IsHeading (Naming.pascal name).toList l.body) ↔
      Naming.pascal name = Naming.pascal modelName ∨
        (Naming.pascal name).toList ++ "extends".toList <+: (Naming.pascal modelName).toList := by
  have hblock : (Chunk.block modelName declarations exported).IsOneLine :=
    ⟨hmodel.not_mem (by decide), (Naming.isPlain_pascal hmodel).not_mem (by decide), oneLine⟩
  have hiff : Heading.IsHeading (Naming.pascal name).toList (Chunk.heading modelName exported).body ↔ _ :=
    Heading.isHeading_braced_iff (Chunk.isExport_exportMark exported) (Naming.isPlain_pascal hname)
      (Naming.isPlain_pascal hmodel)
  rw [String.toList_inj] at hiff
  rw [← hiff]
  constructor
  · rintro ⟨l, hl, hheading⟩
    obtain ⟨_, _, _, hc, rfl⟩ := Chunk.eq_heading_of_mem_lines hblock hl hheading
    obtain ⟨rfl, rfl, rfl⟩ := Chunk.block.inj hc
    exact hheading
  · exact fun hheading => ⟨_, List.mem_cons_of_mem _ List.mem_cons_self, hheading⟩

/-- **The text of an interface is left alone by the reconciliation for another model**, whatever the
fields are called and whatever is required, exactly when the two have two interfaces and `extends` does
not go on from the name of the one in the name of the other. -/
theorem run_interfaceText_iff (hname : IsPlain name.toList) (hmodel : IsPlain modelName.toList)
    {fields : List Field}
    (hfields : ∀ f ∈ fields, IsFieldName f.name.toList ∧ '\n' ∉ f.objectType.toList)
    (exported : Bool) (required : List String) :
    let text := (Definitions.interfaceText modelName (Declaration.ofFields fields) exported).toList
    run name required text = ⟨text, false, 0, false⟩ ↔
      Naming.pascal name ≠ Naming.pascal modelName ∧
        ¬ (Naming.pascal name).toList ++ "extends".toList <+: (Naming.pascal modelName).toList := by
  have oneLine := Declaration.isOneLine_of_mem_ofFields hfields
  have hblock : (Chunk.block modelName (Declaration.ofFields fields) exported).IsOneLine :=
    ⟨hmodel.not_mem (by decide), (Naming.isPlain_pascal hmodel).not_mem (by decide), oneLine⟩
  intro text
  have hlines : lines text =
      (Chunk.block modelName (Declaration.ofFields fields) exported).lines := by
    rw [← Chunk.lines_text hblock, ← Chunk.interfaceText_eq_text]
  rw [run_eq_absent_iff, hlines, exists_isHeading_block_iff hname hmodel oneLine, not_or]

/-- A field that is called like the keyword, in the interface of a name that goes on from the other. -/
theorem run_interfaceText_posts :
    let text := (Definitions.interfaceText "posts"
      (Declaration.ofFields [⟨"interface", .reference, some "post"⟩]) true).toList
    run "post" ["interface"] text = ⟨text, false, 0, false⟩ := by
  have hname : IsFieldName "interface".toList := ⟨'i', "nterface".toList, rfl, by decide, by decide⟩
  exact (run_interfaceText_iff (by decide) (by decide)
    (List.forall_mem_singleton.2 ⟨hname, by decide⟩) true ["interface"]).2 ⟨by decide, by decide⟩

/-- **The interface of another model is settled** if the name of that one goes on with `extends`: the
number of a reference, which is always there, is made optional. -/
theorem run_interfaceText_extends :
    Naming.pascal "post" ≠ Naming.pascal "postextends" ∧
      run "post" [] (Definitions.interfaceText "postextends"
          (Declaration.ofFields [⟨"author", .reference, none⟩]) false).toList =
        ⟨(Definitions.interfaceText "postextends"
          [⟨"author_id", "number", false⟩, ⟨"author", "Author", false⟩] false).toList,
          true, 1, false⟩ := by
  decide +kernel

end InterfaceSync.Reconcile
