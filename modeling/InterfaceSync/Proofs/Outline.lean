import InterfaceSync.Proofs.Declaration
import InterfaceSync.Proofs.Reconcile.Scan

/-!
# Outlines of documents

What is generated consists of interfaces and of the declarations of migrations.  An outline is a list of
these, and the text of a document is the text of its outline.  A reconciliation reads text and knows
nothing of outlines.  It finds its way nevertheless: the headings, braces and declarations that it looks
for stand where the outline has them, and nowhere else.

* `Chunk`, `outlineText`: an interface or a migration, and the text of a list of them.
* `Chunk.interfaceText_eq_text`, `Chunk.migrationText_eq_text`: what is generated is the text of a chunk.
* `settleFirst`: an outline in which the fields of an interface are settled.
* `Chunk.lines_text`: the lines of a chunk.
* `Chunk.settleLines_own`, `Chunk.settleLines_other`: the scan of a chunk.
* `text_run_outline`: the reconciliation of a text followed by an outline.
-/

namespace InterfaceSync

open Text

/-- A part of a document: the interface of a model, or the declarations that a migration adds. -/
inductive Chunk where
  | block (modelName : String) (declarations : List Declaration) (exported : Bool)
  | migration (label : String) (declarations : List Declaration)
  deriving DecidableEq, Repr

namespace Chunk

/-- The line of a declaration in a document. -/
def declarationText (d : Declaration) : String :=
  "  " ++ d.name ++ (if d.alwaysPresent then ": " else "?: ") ++ d.type ++ ";\n"

/-- The text of the interface of a model: a comment that names the model, the heading, the declarations
and the closing brace. -/
def blockText (modelName : String) (declarations : List Declaration) (exported : Bool) : String :=
  "// AUTO-GENERATED for " ++ modelName ++ "\n" ++
    (if exported then "export interface " else "interface ") ++ Naming.pascal modelName ++ " \x7b\n" ++
    String.join (declarations.map declarationText) ++ "\x7d\n"

/-- The text of the declarations that a migration adds, under a comment with its label. -/
def migrationText (label : String) (declarations : List Declaration) : String :=
  "// AUTO-GENERATED from migration " ++ label ++ "\n" ++ String.join (declarations.map declarationText)

/-- The text of a chunk. -/
def text : Chunk → String
  | .block modelName declarations exported => blockText modelName declarations exported
  | .migration label declarations => migrationText label declarations

theorem text_block (modelName : String) (declarations : List Declaration) (exported : Bool) :
    (block modelName declarations exported).text = blockText modelName declarations exported := rfl

theorem text_migration (label : String) (declarations : List Declaration) :
    (migration label declarations).text = migrationText label declarations := rfl

/-- The interface that a chunk declares. -/
def interfaceName? : Chunk → Option String
  | .block modelName _ _ => some (Naming.pascal modelName)
  | .migration _ _ => none

/-- A chunk whose names are plain and whose label stays on its line. -/
def IsPlain : Chunk → Prop
  | .block modelName declarations _ =>
    InterfaceSync.IsPlain modelName.toList ∧ ∀ d ∈ declarations, d.IsPlain
  | .migration label declarations => '\n' ∉ label.toList ∧ ∀ d ∈ declarations, d.IsPlain

/-- A chunk whose names, types and label stay on their lines, and whose fields have names as attributes
give them. -/
def IsOneLine : Chunk → Prop
  | .block modelName declarations _ =>
    '\n' ∉ modelName.toList ∧ '\n' ∉ (Naming.pascal modelName).toList ∧
      ∀ d ∈ declarations, d.IsOneLine
  | .migration label declarations => '\n' ∉ label.toList ∧ ∀ d ∈ declarations, d.IsOneLine

theorem IsPlain.isOneLine {c : Chunk} (h : c.IsPlain) : c.IsOneLine := by
  cases c with
  | block modelName declarations exported =>
    exact ⟨h.1.not_mem (by decide), (Naming.isPlain_pascal h.1).not_mem (by decide),
      fun d hd => (h.2 d hd).isOneLine⟩
  | migration label declarations => exact ⟨h.1, fun d hd => (h.2 d hd).isOneLine⟩

/-! ## What is generated -/

theorem line_append_feed (d : Declaration) : d.line ++ "\n" = declarationText d := by
  have hmark : (if d.alwaysPresent then "" else "?") ++ ": " =
      if d.alwaysPresent then ": " else "?: " := by
    cases d.alwaysPresent with
    | true => rfl
    | false => rfl
  have hend : ";\n" = ";" ++ "\n" := rfl
  rw [declarationText, ← hmark, hend, Declaration.line]
  simp only [String.append_assoc]

theorem lines_eq_join (declarations : List Declaration) :
    Declaration.lines declarations = String.join (declarations.map declarationText) := by
  simp only [Declaration.lines, line_append_feed]

/-- **What is generated for a model** is the text of a block. -/
theorem interfaceText_eq_text (modelName : String) (declarations : List Declaration)
    (exported : Bool) : Definitions.interfaceText modelName declarations exported =
      (block modelName declarations exported).text := by
  have hheading : (if exported then "export " else "") ++ "interface " =
      if exported then "export interface " else "interface " := by
    cases exported with
    | true => rfl
    | false => rfl
  rw [text_block]
  unfold blockText Definitions.interfaceText
  rw [← hheading, ← lines_eq_join]
  simp only [String.append_assoc]

/-- **What is generated for a migration** is the text of its declarations. -/
theorem migrationText_eq_text (label : String) (fields : List Field) :
    Definitions.migrationText label fields =
      (migration label (Declaration.ofFields fields)).text := by
  rw [text_migration]
  unfold migrationText Definitions.migrationText
  rw [lines_eq_join]

/-! ## The lines of a chunk -/

/-- The comment in front of a chunk, which is cut like any other line. -/
def comment (about : String) : Line := Line.ofText (("// AUTO-GENERATED " ++ about).toList ++ ['\n'])

/-- The keywords in front of the name of an interface. -/
def exportMark (exported : Bool) : List Char := if exported then "export ".toList else []

/-- The heading of an interface, with its brace. -/
def heading (modelName : String) (exported : Bool) : Line where
  body := exportMark exported ++
    ("interface".toList ++ ' ' :: ((Naming.pascal modelName).toList ++ [' ', '\x7b']))
  ending := ['\n']

/-- The line that closes an interface. -/
def closing : Line := ⟨['\x7d'], ['\n']⟩

/-- The lines of a chunk. -/
def lines : Chunk → List Line
  | .block modelName declarations exported =>
    comment ("for " ++ modelName) :: heading modelName exported ::
      (declarations.map Declaration.docLine ++ [closing])
  | .migration label declarations =>
    comment ("from migration " ++ label) :: declarations.map Declaration.docLine

variable {modelName label : String} {declarations : List Declaration} {exported : Bool}

theorem isEnded_comment {about : String} (h : '\n' ∉ about.toList) : (comment about).IsEnded := by
  have hcomment : '\n' ∉ ("// AUTO-GENERATED " ++ about).toList := by
    rw [String.toList_append, List.mem_append, not_or]
    exact ⟨by decide, h⟩
  exact Line.isEnded_ofText hcomment

theorem not_mem_exportMark {c : Char} (h : c ∉ "export ".toList) (exported : Bool) :
    c ∉ exportMark exported := by
  cases exported with
  | true => exact h
  | false => exact List.not_mem_nil

/-- The characters of a heading. -/
theorem not_mem_heading {c : Char} (hname : c ∉ (Naming.pascal modelName).toList)
    (hother : c ∉ "export interface \x7b".toList) (exported : Bool) :
    c ∉ (heading modelName exported).body := by
  have hexport : c ∉ "export ".toList := fun hc =>
    hother ((show "export ".toList ⊆ "export interface \x7b".toList by decide) hc)
  have hkeyword : c ∉ "interface".toList := fun hc =>
    hother ((show "interface".toList ⊆ "export interface \x7b".toList by decide) hc)
  have hend : c ∉ [' ', '\x7b'] := fun hc =>
    hother ((show [' ', '\x7b'] ⊆ "export interface \x7b".toList by decide) hc)
  rw [heading, List.mem_append, List.mem_append, List.mem_cons, List.mem_append]
  rintro (hc | hc | rfl | hc | hc)
  · exact not_mem_exportMark hexport exported hc
  · exact hkeyword hc
  · exact hend (by decide)
  · exact hname hc
  · exact hend hc

theorem isEnded_heading (hname : '\n' ∉ (Naming.pascal modelName).toList) (exported : Bool) :
    (heading modelName exported).IsEnded where
  notMem := not_mem_heading hname (by decide) exported
  ending_eq := by
    refine .inr ⟨rfl, ?_⟩
    have hlast : (heading modelName exported).body.getLast? = some '\x7b' := by
      simp [heading, List.getLast?_append, List.getLast?_cons]
    rw [hlast]
    decide

theorem isEnded_closing : closing.IsEnded := ⟨by decide, .inr ⟨rfl, by decide⟩⟩

theorem isEnded_of_mem_lines {c : Chunk} (h : c.IsOneLine) : ∀ l ∈ c.lines, l.IsEnded := by
  have hdeclarations : ∀ {list : List Declaration}, (∀ d ∈ list, d.IsOneLine) →
      ∀ l ∈ list.map Declaration.docLine, l.IsEnded :=
    fun hlist => List.forall_mem_map.2 fun d hd => Declaration.isEnded_docLine (hlist d hd)
  cases c with
  | block modelName declarations exported =>
    obtain ⟨hname, hheading, hlist⟩ := h
    have habout : '\n' ∉ ("for " ++ modelName).toList := by
      rw [String.toList_append, List.mem_append, not_or]
      exact ⟨by decide, hname⟩
    rw [lines, List.forall_mem_cons, List.forall_mem_cons, List.forall_mem_append,
      List.forall_mem_singleton]
    exact ⟨isEnded_comment habout, isEnded_heading hheading exported, hdeclarations hlist,
      isEnded_closing⟩
  | migration label declarations =>
    obtain ⟨hlabel, hlist⟩ := h
    have habout : '\n' ∉ ("from migration " ++ label).toList := by
      rw [String.toList_append, List.mem_append, not_or]
      exact ⟨by decide, hlabel⟩
    rw [lines, List.forall_mem_cons]
    exact ⟨isEnded_comment habout, hdeclarations hlist⟩

theorem text_comment (about : String) :
    (comment about).text = "// AUTO-GENERATED ".toList ++ (about.toList ++ ['\n']) := by
  rw [comment, Line.text_ofText, String.toList_append, List.append_assoc]

theorem text_heading (modelName : String) (exported : Bool) :
    (heading modelName exported).text = exportMark exported ++
      ("interface ".toList ++ ((Naming.pascal modelName).toList ++ " \x7b\n".toList)) := by
  have hkeyword : "interface ".toList = "interface".toList ++ [' '] := by decide
  have hbrace : " \x7b\n".toList = [' ', '\x7b'] ++ ['\n'] := by decide
  rw [heading, Line.text, hkeyword, hbrace]
  simp only [List.append_assoc, List.cons_append, List.nil_append]

/-- The lines of a chunk put together are its text. -/
theorem unlines_lines (c : Chunk) : unlines c.lines = c.text.toList := by
  have hfeed : "\n".toList = ['\n'] := by decide
  cases c with
  | block modelName declarations exported =>
    have hheading : (if exported then "export interface " else "interface ").toList =
        exportMark exported ++ "interface ".toList := by
      cases exported with
      | true => decide
      | false => rfl
    have hfor : "// AUTO-GENERATED for ".toList = "// AUTO-GENERATED ".toList ++ "for ".toList := by
      decide
    have hclosing : unlines [closing] = "\x7d\n".toList := by decide
    rw [lines, unlines_cons, unlines_cons, unlines_append, Declaration.unlines_map_docLine,
      text_comment, text_heading, text_block, lines_eq_join]
    unfold blockText
    simp only [String.toList_append, hheading, hfor, hfeed, hclosing, List.append_assoc]
  | migration label declarations =>
    have hfrom : "// AUTO-GENERATED from migration ".toList =
        "// AUTO-GENERATED ".toList ++ "from migration ".toList := by
      decide
    rw [lines, unlines_cons, Declaration.unlines_map_docLine, text_comment, text_migration,
      lines_eq_join]
    unfold migrationText
    simp only [String.toList_append, hfrom, hfeed, List.append_assoc]

/-- **The lines of a chunk are the lines of its text.** -/
theorem lines_text {c : Chunk} (h : c.IsOneLine) : Text.lines c.text.toList = c.lines :=
  lines_eq_iff.2 ⟨isCut_of_forall_isEnded (isEnded_of_mem_lines h), c.unlines_lines⟩

theorem endsInFeed_text {c : Chunk} (h : c.IsOneLine) : EndsInFeed c.text.toList := by
  rw [← unlines_lines]
  exact endsInFeed_unlines (isEnded_of_mem_lines h)

/-! ## The headings in a chunk -/

theorem not_isHeading_comment (name : List Char) (about : String) :
    ¬ Heading.IsHeading name (comment about).body := by
  have hslash : ("// AUTO-GENERATED " ++ about).toList ++ ['\n'] =
      '/' :: ("/ AUTO-GENERATED ".toList ++ about.toList ++ ['\n']) := by
    rw [String.toList_append]
    rfl
  obtain ⟨rest, hrest⟩ := Line.exists_body_ofText_cons (c := '/') (by decide) (by decide)
    ("/ AUTO-GENERATED ".toList ++ about.toList ++ ['\n'])
  rw [comment, hslash, hrest]
  exact Heading.not_isHeading_cons Heading.isForeign_slash

theorem not_isHeading_closing (name : List Char) : ¬ Heading.IsHeading name closing.body :=
  Heading.not_isHeading_cons Heading.isForeign_closing

theorem isExport_exportMark (exported : Bool) : Heading.IsExport (exportMark exported) := by
  cases exported with
  | true => exact .inr ⟨[' '], ⟨List.cons_ne_nil _ _, by decide⟩, rfl⟩
  | false => exact .inl rfl

theorem isHeading_heading (modelName : String) (exported : Bool) :
    Heading.IsHeading (Naming.pascal modelName).toList (heading modelName exported).body :=
  Heading.isHeading_braced (isExport_exportMark exported) _

/-- **The only heading in a chunk is that of its interface.** -/
theorem eq_heading_of_mem_lines {c : Chunk} (h : c.IsOneLine) {name : List Char} {l : Line}
    (hl : l ∈ c.lines) (hheading : Heading.IsHeading name l.body) :
    ∃ modelName declarations exported, c = .block modelName declarations exported ∧
      l = heading modelName exported := by
  have hdeclarations : ∀ {list : List Declaration}, (∀ d ∈ list, d.IsOneLine) →
      l ∉ list.map Declaration.docLine := by
    intro list hlist hmem
    obtain ⟨d, hd, rfl⟩ := List.mem_map.1 hmem
    exact Declaration.not_isHeading_line (hlist d hd).name_isFieldName name hheading
  have hcomment : ∀ about, l ≠ comment about := by
    rintro about rfl
    exact not_isHeading_comment name about hheading
  cases c with
  | block modelName declarations exported =>
    rw [lines, List.mem_cons, List.mem_cons, List.mem_append, List.mem_singleton] at hl
    rcases hl with hl | hl | hl | rfl
    · exact absurd hl (hcomment _)
    · exact ⟨modelName, declarations, exported, rfl, hl⟩
    · exact absurd hl (hdeclarations h.2.2)
    · exact absurd hheading (not_isHeading_closing name)
  | migration label declarations =>
    rw [lines, List.mem_cons] at hl
    rcases hl with hl | hl
    · exact absurd hl (hcomment _)
    · exact absurd hl (hdeclarations h.2)

/-- A chunk with another interface or none has no heading of the interface. -/
theorem not_isHeading_of_mem_lines {c : Chunk} (plain : c.IsPlain) {name : String}
    (hname : InterfaceSync.IsPlain name.toList)
    (other : ∀ declared ∈ c.interfaceName?,
      declared ≠ name ∧ ¬ name.toList ++ "extends".toList <+: declared.toList) :
    ∀ l ∈ c.lines, ¬ Heading.IsHeading name.toList l.body := by
  intro l hl hheading
  obtain ⟨modelName, declarations, exported, rfl, rfl⟩ :=
    eq_heading_of_mem_lines plain.isOneLine hl hheading
  obtain ⟨hne, hextends⟩ := other _ rfl
  rcases (Heading.isHeading_braced_iff (isExport_exportMark exported) hname
    (Naming.isPlain_pascal plain.1)).1 hheading with heq | hprefix
  · exact hne (String.toList_inj.1 heq).symm
  · exact hextends hprefix

/-! ## The braces in a chunk -/

theorem opened_heading (plain : InterfaceSync.IsPlain modelName.toList) (exported : Bool) :
    Reconcile.opened (heading modelName exported).body = 1 := by
  have hname : (Naming.pascal modelName).toList.count '\x7b' = 0 :=
    List.count_eq_zero_of_not_mem ((Naming.isPlain_pascal plain).not_mem (by decide))
  have hexport : (exportMark exported).count '\x7b' = 0 :=
    List.count_eq_zero_of_not_mem (not_mem_exportMark (by decide) exported)
  rw [Reconcile.opened, heading, List.count_append, List.count_append, List.count_cons,
    List.count_append, hname, hexport]
  rfl

theorem balance_heading (plain : InterfaceSync.IsPlain modelName.toList) (exported : Bool) :
    Reconcile.balance (heading modelName exported).body = 1 := by
  have hopened : (heading modelName exported).body.count '\x7b' = 1 := opened_heading plain exported
  have hclosed : (heading modelName exported).body.count '\x7d' = 0 :=
    List.count_eq_zero_of_not_mem
      (not_mem_heading ((Naming.isPlain_pascal plain).not_mem (by decide)) (by decide) exported)
  rw [Reconcile.balance, hopened, hclosed]
  rfl

/-! ## The scan of a chunk -/

open Reconcile

/-- Inside a block declarations are settled, and nothing ends the block. -/
theorem settleLines_declarations (name : List Char) (required : List String)
    (plain : ∀ d ∈ declarations, d.IsPlain) :
    settleLines name required (.inside 1 true) (declarations.map Declaration.docLine) =
      ((declarations.map (Declaration.settled required)).map Declaration.docLine,
        .inside 1 true) := by
  induction declarations with
  | nil => rfl
  | cons d rest ih =>
    obtain ⟨hd, hrest⟩ := List.forall_mem_cons.1 plain
    have hnext : Phase.next name (.inside 1 true) d.docLine.body = .inside 1 true := by
      rw [Phase.next, Declaration.docLine, Declaration.balance_line hd]
      rfl
    have hsettled : settledBody required (.inside 1 true) (.inside 1 true) d.docLine.body =
        (d.settled required).docLine.body := Declaration.settle_line hd required
    rw [List.map_cons, settleLines_cons, hnext, hsettled, ih hrest]
    rfl

/-- **A chunk with another interface or none** is passed over. -/
theorem settleLines_other {c : Chunk} (plain : c.IsPlain) {name : String}
    (hname : InterfaceSync.IsPlain name.toList)
    (other : ∀ declared ∈ c.interfaceName?,
      declared ≠ name ∧ ¬ name.toList ++ "extends".toList <+: declared.toList)
    (required : List String) :
    settleLines name.toList required .searching c.lines = (c.lines, .searching) :=
  settleLines_of_forall_not_isHeading required (not_isHeading_of_mem_lines plain hname other)

/-- **A chunk with the interface** gets its declarations settled, and the block ends with the chunk. -/
theorem settleLines_own (plain : (block modelName declarations exported).IsPlain)
    (required : List String) :
    settleLines (Naming.pascal modelName).toList required .searching
        (block modelName declarations exported).lines =
      ((block modelName (declarations.map (Declaration.settled required)) exported).lines, .done) := by
  obtain ⟨hmodel, hplain⟩ := plain
  have hcomment : Phase.next (Naming.pascal modelName).toList .searching
      (comment ("for " ++ modelName)).body = .searching :=
    next_searching_of_not_isHeading (not_isHeading_comment _ _)
  have hheading : Phase.next (Naming.pascal modelName).toList .searching
      (heading modelName exported).body = .inside 1 true := by
    rw [Phase.next, if_pos (Heading.opens_eq_true_iff.2 (isHeading_heading modelName exported)),
      balance_heading hmodel, opened_heading hmodel]
    rfl
  rw [lines, settleLines_cons, hcomment, settleLines_cons, hheading, settleLines_append,
    settleLines_declarations _ _ hplain]
  rfl

end Chunk

/-! ## Outlines -/

/-- The text of an outline. -/
def outlineText (chunks : List Chunk) : String := String.join (chunks.map Chunk.text)

theorem outlineText_cons (c : Chunk) (rest : List Chunk) :
    outlineText (c :: rest) = c.text ++ outlineText rest := by
  simp [outlineText]

theorem outlineText_concat (chunks : List Chunk) (c : Chunk) :
    outlineText (chunks ++ [c]) = outlineText chunks ++ c.text := by
  simp [outlineText]

/-- An outline in which the declarations of the first block of an interface are settled.  Later blocks
of the same interface and everything else stay as they are. -/
def settleFirst (name : String) (required : List String) : List Chunk → List Chunk
  | [] => []
  | .block modelName declarations exported :: rest =>
    if Naming.pascal modelName = name then
      .block modelName (declarations.map (Declaration.settled required)) exported :: rest
    else .block modelName declarations exported :: settleFirst name required rest
  | .migration label declarations :: rest =>
    .migration label declarations :: settleFirst name required rest

/-- Settling keeps the interfaces that are declared, and their order. -/
theorem map_interfaceName?_settleFirst (name : String) (required : List String)
    (chunks : List Chunk) :
    (settleFirst name required chunks).map Chunk.interfaceName? = chunks.map Chunk.interfaceName? := by
  induction chunks with
  | nil => rfl
  | cons c rest ih =>
    cases c with
    | block modelName declarations exported =>
      rw [settleFirst]
      split
      · rfl
      · rw [List.map_cons, ih, List.map_cons]
    | migration label declarations => rw [settleFirst, List.map_cons, ih, List.map_cons]

theorem isPlain_settleFirst (name : String) (required : List String) {chunks : List Chunk}
    (plain : ∀ c ∈ chunks, c.IsPlain) : ∀ c ∈ settleFirst name required chunks, c.IsPlain := by
  induction chunks with
  | nil => exact plain
  | cons c rest ih =>
    obtain ⟨hc, hrest⟩ := List.forall_mem_cons.1 plain
    cases c with
    | block modelName declarations exported =>
      rw [settleFirst]
      split
      · refine List.forall_mem_cons.2 ⟨⟨hc.1, fun d hd => ?_⟩, hrest⟩
        obtain ⟨first, hfirst, rfl⟩ := List.mem_map.1 hd
        exact (hc.2 first hfirst).settled required
      · exact List.forall_mem_cons.2 ⟨hc, ih hrest⟩
    | migration label declarations =>
      rw [settleFirst]
      exact List.forall_mem_cons.2 ⟨hc, ih hrest⟩

theorem unlines_flatMap_lines (chunks : List Chunk) :
    unlines (chunks.flatMap Chunk.lines) = (outlineText chunks).toList := by
  induction chunks with
  | nil => rfl
  | cons c rest ih =>
    rw [List.flatMap_cons, unlines_append, ih, c.unlines_lines, outlineText_cons,
      String.toList_append]

/-- The lines of an outline are those of its chunks. -/
theorem lines_outlineText {chunks : List Chunk} (plain : ∀ c ∈ chunks, c.IsPlain) :
    lines (outlineText chunks).toList = chunks.flatMap Chunk.lines := by
  induction chunks with
  | nil => rfl
  | cons c rest ih =>
    obtain ⟨hc, hrest⟩ := List.forall_mem_cons.1 plain
    rw [outlineText_cons, String.toList_append,
      lines_append_of_endsInFeed (Chunk.endsInFeed_text hc.isOneLine), ih hrest,
      Chunk.lines_text hc.isOneLine, List.flatMap_cons]

namespace Reconcile

/-- **The scan of an outline settles the first block of the interface**, if there is one.  What is
required is that none of the names goes on with `extends` from the name that is looked for. -/
theorem settleLines_outline {name : String} (hname : IsPlain name.toList) (required : List String)
    {chunks : List Chunk} (plain : ∀ c ∈ chunks, c.IsPlain)
    (noExtends : ∀ c ∈ chunks, ∀ declared ∈ c.interfaceName?,
      ¬ name.toList ++ "extends".toList <+: declared.toList) :
    (settleLines name.toList required .searching (chunks.flatMap Chunk.lines)).1 =
      (settleFirst name required chunks).flatMap Chunk.lines := by
  induction chunks with
  | nil => rfl
  | cons c rest ih =>
    obtain ⟨hc, hrest⟩ := List.forall_mem_cons.1 plain
    obtain ⟨hcExtends, hrestExtends⟩ := List.forall_mem_cons.1 noExtends
    have passes : (∀ declared ∈ c.interfaceName?, declared ≠ name) →
        (settleLines name.toList required .searching ((c :: rest).flatMap Chunk.lines)).1 =
          c.lines ++ (settleFirst name required rest).flatMap Chunk.lines := by
      intro hne
      have hother := Chunk.settleLines_other hc hname
        (fun declared hd => ⟨hne declared hd, hcExtends declared hd⟩) required
      rw [List.flatMap_cons, settleLines_append, hother]
      simp only
      rw [ih hrest hrestExtends]
    cases c with
    | block modelName declarations exported =>
      rw [settleFirst]
      split
      · rename_i hown
        rw [List.flatMap_cons, settleLines_append, ← hown, Chunk.settleLines_own hc]
        simp only
        rw [settleLines_done, List.flatMap_cons]
      · rename_i hne
        have hdeclared : ∀ declared ∈ (Chunk.block modelName declarations exported).interfaceName?,
            declared ≠ name := by
          rintro _ ⟨⟩
          exact hne
        rw [passes hdeclared, List.flatMap_cons]
    | migration label declarations =>
      rw [settleFirst, passes fun declared hd => absurd hd (Option.not_mem_none declared),
        List.flatMap_cons]

/-- **The reconciliation of an outline behind a text** in which there is no heading of the interface. -/
theorem text_run_outline {modelName : String} (hname : IsPlain modelName.toList)
    (required : List String) {before : List Char} (feed : EndsInFeed before)
    (noHeading : ∀ l ∈ lines before, ¬ Heading.IsHeading (Naming.pascal modelName).toList l.body)
    {chunks : List Chunk} (plain : ∀ c ∈ chunks, c.IsPlain)
    (noExtends : ∀ c ∈ chunks, ∀ declared ∈ c.interfaceName?,
      ¬ (Naming.pascal modelName).toList ++ "extends".toList <+: declared.toList) :
    (run modelName required (before ++ (outlineText chunks).toList)).text =
      before ++ (outlineText (settleFirst (Naming.pascal modelName) required chunks)).toList := by
  have hbefore : settleLines (Naming.pascal modelName).toList required .searching (lines before) =
      (lines before, .searching) :=
    settleLines_of_forall_not_isHeading required noHeading
  rw [text_run, scan, lines_append_of_endsInFeed feed, lines_outlineText plain, settleLines_append,
    hbefore]
  simp only
  rw [settleLines_outline (Naming.isPlain_pascal hname) required plain noExtends, unlines_append,
    unlines_lines, unlines_flatMap_lines]

end Reconcile
end InterfaceSync
