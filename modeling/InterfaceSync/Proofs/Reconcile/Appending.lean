import InterfaceSync.Proofs.Attribute
import InterfaceSync.Proofs.Reconcile.Locality
import InterfaceSync.Proofs.Refinement

/-!
# Migrations behind a text

The declarations of a migration are written behind whatever the document holds.  If its last line is not
ended, the comment of the migration goes on from that line, which may be the closing line of the block, a
block of one line or nearly a heading.  Nothing comes of it: the comment begins with a slash and has no
brace, a heading is over in front of any slash, and no declaration is a heading.  So once the block of a
model is closed, or if there is none, what is appended is left alone.

* `Phase.IsOutside`: the phases in which lines are left alone.
* `isHeading_of_isHeading_append`: a line with a slash and more behind it.
* `next_append`: the phase behind such a line.
* `run_append_of_isOutside`: a comment and lines without a heading behind a text.
* `run_migrationText`: a migration behind a text.
-/

namespace InterfaceSync

open Text

/-! ## Lines that go on -/

namespace Text

/-- A text is made up of ended lines and of a last line that is not ended, which may be empty. -/
theorem exists_eq_append_unfinished (text : List Char) :
    ∃ front last, text = front ++ last ∧ EndsInFeed front ∧ '\n' ∉ last := by
  induction text using feed_induction with
  | unfinished body h => exact ⟨[], body, rfl, endsInFeed_nil, h⟩
  | finished body rest _ ih =>
    obtain ⟨front, last, rfl, hfront, hlast⟩ := ih
    refine ⟨(body ++ ['\n']) ++ front, last, by simp, EndsInFeed.append (.inr ?_) hfront, hlast⟩
    exact List.getLast?_concat

/-- The ending of a line does not depend on what stands in front of the line, if that has an end of its
own. -/
theorem Line.ofText_append (front : List Char) {raw : List Char} (hraw : raw ≠ []) :
    Line.ofText (front ++ (raw ++ ['\n'])) =
      ⟨front ++ (Line.ofText (raw ++ ['\n'])).body, (Line.ofText (raw ++ ['\n'])).ending⟩ := by
  by_cases hlast : raw.getLast? = some '\r'
  · obtain ⟨body, rfl⟩ := List.getLast?_eq_some_iff.1 hlast
    have hcrlf : body ++ ['\r'] ++ ['\n'] = body ++ ['\r', '\n'] := by simp
    rw [hcrlf, ofText_crlf, ← List.append_assoc, ofText_crlf]
  · have hfront : (front ++ raw).getLast? ≠ some '\r' := by
      rw [List.getLast?_append]
      cases h : raw.getLast? with
      | none => exact absurd (List.getLast?_eq_none_iff.1 h) hraw
      | some c => rwa [h] at hlast
    rw [ofText_feed hlast, ← List.append_assoc, ofText_feed hfront]

/-- What does not hold a character stands in front of a text if it stands in front of the text with the
character behind it. -/
theorem prefix_of_prefix_append_cons {front text more : List Char} {c : Char} (hc : c ∉ front)
    (h : front <+: text ++ c :: more) : front <+: text := by
  obtain ⟨rest, heq⟩ := h
  rcases List.append_eq_append_iff.1 heq with ⟨middle, htext, -⟩ | ⟨middle, hfront, hrest⟩
  · exact ⟨middle, htext.symm⟩
  · cases middle with
    | nil =>
      have hsame : front = text := hfront.trans (List.append_nil text)
      exact hsame ▸ List.prefix_rfl
    | cons d middle =>
      rw [hfront, ← (List.cons.inj hrest).1] at hc
      exact absurd (List.mem_append_right _ List.mem_cons_self) hc

/-- The lines of a comment that goes on from a line, with whatever stands behind the comment. -/
theorem exists_lines_append_comment {last comment : List Char} (hlast : '\n' ∉ last)
    (hfeed : '\n' ∉ comment) :
    ∃ more ending, more ⊆ comment ++ ['\n'] ∧ ∀ rest,
      lines (last ++ ('/' :: comment ++ '\n' :: rest)) =
        ⟨last ++ '/' :: more, ending⟩ :: lines rest := by
  obtain ⟨more, hmore⟩ := Line.exists_body_ofText_cons (c := '/') (by decide) (by decide)
    (comment ++ ['\n'])
  refine ⟨more, (Line.ofText ('/' :: comment ++ ['\n'])).ending, fun c hc => ?_, fun rest => ?_⟩
  · have htext := Line.text_ofText ('/' :: (comment ++ ['\n']))
    rw [Line.text, hmore, List.cons_append, List.cons.injEq] at htext
    rw [← htext.2]
    exact List.mem_append_left _ hc
  · have hfinished : '\n' ∉ last ++ '/' :: comment := by simp [hlast, hfeed]
    rw [← List.append_assoc, lines_finished hfinished, List.append_assoc,
      Line.ofText_append last (List.cons_ne_nil '/' comment), List.cons_append, hmore]

end Text

/-! ## Headings that go on -/

namespace Heading

/-- A heading as far as the white space behind the name. -/
def IsFront (name front : List Char) : Prop :=
  ∃ mark indent exported gap space,
    front = mark ++ (indent ++ (exported ++ ("interface".toList ++ (gap ++ (name ++ space))))) ∧
      IsMark mark ∧ IsSpace indent ∧ IsExport exported ∧ IsGap gap ∧ IsSpace space

theorem isHeading_iff {name body : List Char} :
    IsHeading name body ↔ ∃ front tail, body = front ++ tail ∧ IsFront name front ∧ IsTail tail := by
  constructor
  · rintro ⟨mark, indent, exported, gap, space, tail, rfl, hmark, hindent, hexported, hgap, hspace,
      htail⟩
    exact ⟨_, tail, by simp only [List.append_assoc],
      ⟨mark, indent, exported, gap, space, rfl, hmark, hindent, hexported, hgap, hspace⟩, htail⟩
  · rintro ⟨_, tail, rfl,
      ⟨mark, indent, exported, gap, space, rfl, hmark, hindent, hexported, hgap, hspace⟩, htail⟩
    exact ⟨mark, indent, exported, gap, space, tail, by simp only [List.append_assoc], hmark, hindent,
      hexported, hgap, hspace, htail⟩

/-- A foreign character stands in front of the tail only in the name. -/
theorem IsFront.not_mem {name front : List Char} (h : IsFront name front) {c : Char}
    (hc : IsForeign c) (hname : c ∉ name) : c ∉ front := by
  obtain ⟨mark, indent, exported, gap, space, rfl, hmark, hindent, hexported, hgap, hspace⟩ := h
  have outside : ∀ {text}, IsSpace text → c ∉ text := by
    intro text htext hmem
    exact Bool.false_ne_true (hc.isBlank_eq_false.symm.trans (htext c hmem))
  have hmark' : c ∉ mark := by
    rcases hmark with rfl | rfl
    · exact List.not_mem_nil
    · exact fun hmem => hc.ne_mark (List.mem_singleton.1 hmem)
  have hexported' : c ∉ exported := by
    rcases hexported with rfl | ⟨gap', hgap', rfl⟩
    · exact List.not_mem_nil
    · rw [List.mem_append, not_or]
      exact ⟨hc.notMem_export, outside hgap'.2⟩
  simp only [List.mem_append, not_or]
  exact ⟨hmark', outside hindent, hexported', hc.notMem_interface, outside hgap.2, hname,
    outside hspace⟩

/-- A line that goes on with a slash is a heading only if it was one in front of the slash. -/
theorem isHeading_of_isHeading_append {name text more : List Char} (hname : '/' ∉ name)
    (h : IsHeading name (text ++ '/' :: more)) : IsHeading name text := by
  obtain ⟨front, tail, heq, hfront, htail⟩ := isHeading_iff.1 h
  have hslash : '/' ∉ front := hfront.not_mem isForeign_slash hname
  -- The slash stands behind what the tail begins with, and that is enough for a heading.
  have cut : ∀ start, '/' ∉ start → start <+: tail → ∃ rest, text = front ++ (start ++ rest) := by
    rintro start hstart ⟨rest, rfl⟩
    have hcut : front ++ start <+: text ++ '/' :: more :=
      ⟨rest, by rw [heq, List.append_assoc]⟩
    have hmem : '/' ∉ front ++ start := by
      rw [List.mem_append, not_or]
      exact ⟨hslash, hstart⟩
    obtain ⟨rest', rfl⟩ := prefix_of_prefix_append_cons hmem hcut
    exact ⟨rest', List.append_assoc front start rest'⟩
  rcases htail with rfl | hbrace | hextends
  · rw [List.append_nil] at heq
    rw [← heq] at hslash
    exact absurd (List.mem_append_right _ List.mem_cons_self) hslash
  · obtain ⟨rest, htext⟩ := cut _ (by decide) hbrace
    exact isHeading_iff.2 ⟨front, _, htext, hfront, .inr (.inl (List.prefix_append _ _))⟩
  · obtain ⟨rest, htext⟩ := cut _ (by decide) hextends
    exact isHeading_iff.2 ⟨front, _, htext, hfront, .inr (.inr (List.prefix_append _ _))⟩

/-- A heading with a brace on its line stays one, whatever the line goes on with. -/
theorem IsHeading.append {name text : List Char} (hname : '\x7b' ∉ name) (h : IsHeading name text)
    (hbrace : '\x7b' ∈ text) (more : List Char) : IsHeading name (text ++ more) := by
  obtain ⟨front, tail, rfl, hfront, htail⟩ := isHeading_iff.1 h
  refine isHeading_iff.2 ⟨front, tail ++ more, List.append_assoc front tail more, hfront, ?_⟩
  rcases htail with rfl | hopen | hextends
  · rw [List.append_nil] at hbrace
    exact absurd hbrace (hfront.not_mem isForeign_opening hname)
  · exact .inr (.inl (hopen.trans (List.prefix_append _ _)))
  · exact .inr (.inr (hextends.trans (List.prefix_append _ _)))

end Heading

namespace Reconcile

/-! ## Phases outside the block -/

/-- A phase in front of the block or behind it. -/
def Phase.IsOutside (p : Phase) : Prop := p = .searching ∨ p = .done

theorem Phase.IsOutside.declaresBetween_eq_false {p : Phase} (h : p.IsOutside) (before : Phase) :
    before.declaresBetween p = false := by
  rcases h with rfl | rfl
  · cases before with
    | _ => rfl
  · cases before with
    | _ => rfl

/-- A line that is no heading does not lead into the block. -/
theorem Phase.IsOutside.next_eq {name body : List Char} {p : Phase} (h : p.IsOutside)
    (hnot : ¬ Heading.IsHeading name body) : p.next name body = p := by
  rcases h with rfl | rfl
  · exact next_searching_of_not_isHeading hnot
  · rfl

/-- Outside the block lines without a heading are left alone. -/
theorem settleLines_of_isOutside {name : List Char} (required : List String) {p : Phase}
    (h : p.IsOutside) {list : List Line} (noHeading : ∀ l ∈ list, ¬ Heading.IsHeading name l.body) :
    settleLines name required p list = (list, p) := by
  rcases h with rfl | rfl
  · exact settleLines_of_forall_not_isHeading required noHeading
  · exact settleLines_done name required list

/-- The scan of a document ends outside the block, if there is none or a line closes it. -/
theorem isOutside_snd_scan {modelName : String} (required : List String) {text : List Char}
    (h : (∀ l ∈ lines text, ¬ Heading.IsHeading (Naming.pascal modelName).toList l.body) ∨
      ∃ a e, IsFirstHeading (Naming.pascal modelName).toList (lines text) a ∧
        Closes (lines text) a e) : (scan modelName required text).2.IsOutside := by
  rcases h with absent | ⟨a, e, first, hclose⟩
  · have hscan : scan modelName required text = (lines text, .searching) :=
      settleLines_of_forall_not_isHeading required absent
    exact .inl (congrArg Prod.snd hscan)
  · rcases snd_scan_of_present required first with ⟨hdone, -⟩ | ⟨-, hopen⟩
    · exact .inr hdone
    · exact absurd hclose (hopen e)

/-! ## Lines that go on with a comment -/

section Append

variable {name body more : List Char}

theorem opened_append (hopen : '\x7b' ∉ more) : opened (body ++ more) = opened body := by
  rw [opened, List.count_append, List.count_eq_zero_of_not_mem hopen, Nat.add_zero, opened]

theorem balance_append (hopen : '\x7b' ∉ more) (hclose : '\x7d' ∉ more) :
    balance (body ++ more) = balance body := by
  rw [balance, List.count_append, List.count_append, List.count_eq_zero_of_not_mem hopen,
    List.count_eq_zero_of_not_mem hclose, Nat.add_zero, Nat.add_zero, balance]

/-- **The phase behind a line that goes on with a comment** is the one from before, if that is outside
the block. -/
theorem next_append (hslash : '/' ∉ name) (hbrace : '\x7b' ∉ name) (hopen : '\x7b' ∉ more)
    (hclose : '\x7d' ∉ more) {p : Phase} (h : (p.next name body).IsOutside) :
    p.next name (body ++ '/' :: more) = p.next name body := by
  have hopen' : '\x7b' ∉ '/' :: more := by simp [hopen]
  have hclose' : '\x7d' ∉ '/' :: more := by simp [hclose]
  cases p with
  | searching =>
    by_cases hheading : Heading.IsHeading name body
    · have hnext : Phase.next name .searching body = .atDepth (balance body) (decide (0 < opened body)) :=
        if_pos (Heading.opens_eq_true_iff.2 hheading)
      -- The block is over with its heading, so a brace is opened on that line.
      have hmem : '\x7b' ∈ body := by
        rw [hnext, Phase.atDepth] at h
        split at h
        · rename_i hdone
          exact List.count_pos_iff.1 (of_decide_eq_true hdone.1)
        · rcases h with h | h
          · exact absurd h Phase.noConfusion
          · exact absurd h Phase.noConfusion
      rw [hnext, Phase.next, if_pos (Heading.opens_eq_true_iff.2 (hheading.append hbrace hmem _)),
        balance_append hopen' hclose', opened_append hopen']
    · have hnot : ¬ Heading.IsHeading name (body ++ '/' :: more) :=
        fun hmore => hheading (Heading.isHeading_of_isHeading_append hslash hmore)
      rw [next_searching_of_not_isHeading hnot, next_searching_of_not_isHeading hheading]
  | inside depth hasOpened =>
    rw [Phase.next, Phase.next, balance_append hopen' hclose', opened_append hopen']
  | done => rfl

/-- A last line that is not ended, if there is one, is left alone when the scan ends outside the block,
and it leads to the same phase when it goes on with a comment. -/
theorem settleLines_unfinished (required : List String) (hslash : '/' ∉ name) (hbrace : '\x7b' ∉ name)
    (hfeed : '\n' ∉ body) (hopen : '\x7b' ∉ more) (hclose : '\x7d' ∉ more) {p : Phase}
    (h : (settleLines name required p (lines body)).2.IsOutside) :
    settleLines name required p (lines body) = (lines body, p.next name (body ++ '/' :: more)) := by
  by_cases hbody : body = []
  · rw [hbody, lines_nil, settleLines_nil] at h ⊢
    have hnot : ¬ Heading.IsHeading name ('/' :: more) :=
      Heading.not_isHeading_cons Heading.isForeign_slash
    rw [List.nil_append, h.next_eq hnot]
  · rw [lines_unfinished hfeed hbody, Line.ofText_unfinished hfeed, settleLines_cons,
      settleLines_nil] at h ⊢
    rw [settledBody, h.declaresBetween_eq_false, if_neg Bool.false_ne_true,
      next_append hslash hbrace hopen hclose h]

/-- **A last line with a comment and lines without a heading behind it** is left alone, and so is what
stands behind it, if the scan of the line alone ends outside the block. -/
theorem settleLines_append_comment (required : List String) (hname : IsPlain name) (hfeed : '\n' ∉ body)
    {comment : List Char} (hcomment : '\n' ∉ comment) (hopen : '\x7b' ∉ comment)
    (hclose : '\x7d' ∉ comment) {rest : List Char}
    (noHeading : ∀ l ∈ lines rest, ¬ Heading.IsHeading name l.body) {p : Phase}
    (h : (settleLines name required p (lines body)).2.IsOutside) :
    ∃ q, settleLines name required p (lines body) = (lines body, q) ∧
      settleLines name required p (lines (body ++ ('/' :: comment ++ '\n' :: rest))) =
        (lines (body ++ ('/' :: comment ++ '\n' :: rest)), q) := by
  obtain ⟨more, ending, hmore, hlines⟩ := exists_lines_append_comment hfeed hcomment
  have hopen' : '\x7b' ∉ more := fun hmem => by simpa [hopen] using hmore hmem
  have hclose' : '\x7d' ∉ more := fun hmem => by simpa [hclose] using hmore hmem
  have hunfinished := settleLines_unfinished required (hname.not_mem (by decide))
    (hname.not_mem (by decide)) hfeed hopen' hclose' h
  rw [hunfinished] at h
  refine ⟨_, hunfinished, ?_⟩
  rw [hlines, settleLines_cons, settledBody, h.declaresBetween_eq_false, if_neg Bool.false_ne_true,
    settleLines_of_isOutside required h noHeading]

end Append

/-! ## The whole document -/

/-- **A comment and lines without a heading behind a text** are left alone, and nothing else comes out
for the text, if the scan of it ends outside the block. -/
theorem run_append_of_isOutside {modelName : String} {required : List String} {prior : List Char}
    (hname : IsPlain (Naming.pascal modelName).toList) (h : (scan modelName required prior).2.IsOutside)
    {comment : List Char} (hfeed : '\n' ∉ comment) (hopen : '\x7b' ∉ comment)
    (hclose : '\x7d' ∉ comment) {rest : List Char}
    (noHeading : ∀ l ∈ lines rest, ¬ Heading.IsHeading (Naming.pascal modelName).toList l.body) :
    run modelName required (prior ++ ('/' :: comment ++ '\n' :: rest)) =
      { run modelName required prior with
        text := (run modelName required prior).text ++ ('/' :: comment ++ '\n' :: rest) } := by
  obtain ⟨front, last, rfl, hfront, hlast⟩ := exists_eq_append_unfinished prior
  rw [scan_append hfront] at h
  obtain ⟨q, hq, hq'⟩ := settleLines_append_comment required hname hlast hfeed hopen hclose noHeading h
  have hcount := fun more => differing_append_self (length_scan modelName required front).symm more
  rw [run_eq, run_eq, List.append_assoc, scan_append hfront, scan_append hfront, hq, hq',
    lines_append_of_endsInFeed hfront, lines_append_of_endsInFeed hfront]
  simp only [unlines_append, unlines_lines, hcount, List.append_assoc]

/-! ## Migrations -/

/-- The text of a migration is a comment and the declarations. -/
theorem toList_migrationText (label : String) (fields : List Field) :
    (Definitions.migrationText label fields).toList =
      '/' :: ("/ AUTO-GENERATED from migration ".toList ++ label.toList) ++
        '\n' :: (Declaration.lines (Declaration.ofFields fields)).toList := by
  have hslash : "// AUTO-GENERATED from migration ".toList =
      '/' :: "/ AUTO-GENERATED from migration ".toList := by decide
  have hfeed : "\n".toList = ['\n'] := by decide
  unfold Definitions.migrationText
  simp only [String.toList_append, hslash, hfeed, List.append_assoc, List.cons_append, List.nil_append]

/-- The declarations of a migration are no headings. -/
theorem not_isHeading_of_mem_lines_ofFields {fields : List Field} (plain : ∀ f ∈ fields, f.IsPlain)
    (name : List Char) :
    ∀ l ∈ lines (Declaration.lines (Declaration.ofFields fields)).toList,
      ¬ Heading.IsHeading name l.body := by
  have hplain := Declaration.isPlain_of_mem_ofFields plain
  have hlines : lines (Declaration.lines (Declaration.ofFields fields)).toList =
      (Declaration.ofFields fields).map Declaration.docLine :=
    lines_eq_iff.2 ⟨isCut_of_forall_isEnded
      (List.forall_mem_map.2 fun d hd => Declaration.isEnded_docLine (hplain d hd).isOneLine),
      Declaration.unlines_map_docLine _⟩
  rw [hlines]
  exact List.forall_mem_map.2 fun d hd =>
    Declaration.not_isHeading_line (hplain d hd).name_isFieldName name

/-- Fields that are read from arguments are plain. -/
theorem isPlain_of_mem_readAll {arguments : List String} {fields : List Field}
    (h : Attribute.readAll arguments = .ok fields) : ∀ f ∈ fields, f.IsPlain := by
  intro f hf
  obtain ⟨hname, htarget⟩ := Attribute.of_mem_readAll h f hf
  exact ⟨hname, fun target hmem => absurd (htarget ▸ hmem) (Option.not_mem_none target)⟩

/-- **A migration behind a text** is left alone, and nothing else comes out for the text, if there is no
block of the model in it or a line closes the block.  The text may or may not end in a line feed. -/
theorem run_migrationText {modelName label : String} (hname : IsPlain modelName.toList)
    {prior : List Char}
    (hprior : (∀ l ∈ lines prior, ¬ Heading.IsHeading (Naming.pascal modelName).toList l.body) ∨
      ∃ a e, IsFirstHeading (Naming.pascal modelName).toList (lines prior) a ∧
        Closes (lines prior) a e)
    (hfeed : '\n' ∉ label.toList) (hopen : '\x7b' ∉ label.toList) (hclose : '\x7d' ∉ label.toList)
    {arguments : List String} {fields : List Field}
    (hfields : Attribute.readAll arguments = .ok fields) (required : List String) :
    run modelName required (prior ++ (Definitions.migrationText label fields).toList) =
      { run modelName required prior with
        text := (run modelName required prior).text ++
          (Definitions.migrationText label fields).toList } := by
  have hcomment : ∀ {c}, c ∉ "/ AUTO-GENERATED from migration ".toList → c ∉ label.toList →
      c ∉ "/ AUTO-GENERATED from migration ".toList ++ label.toList := by
    intro c hfixed hlabel
    rw [List.mem_append, not_or]
    exact ⟨hfixed, hlabel⟩
  have happend := run_append_of_isOutside (Naming.isPlain_pascal hname)
    (isOutside_snd_scan required hprior) (hcomment (by decide) hfeed) (hcomment (by decide) hopen)
    (hcomment (by decide) hclose)
    (not_isHeading_of_mem_lines_ofFields (isPlain_of_mem_readAll hfields) _)
  rw [toList_migrationText]
  exact happend

/-- A migration whose comment goes on from the line that closes the block. -/
theorem run_migrationText_unended :
    let prior := "interface Post \x7b\n  title: string;\n\x7d".toList
    let addition := (Definitions.migrationText "AddAuthor" [⟨"author", .reference, none⟩]).toList
    run "post" [] (prior ++ addition) =
      { run "post" [] prior with text := (run "post" [] prior).text ++ addition } := by
  have hheading : Heading.IsHeading (Naming.pascal "post").toList "interface Post \x7b".toList :=
    Heading.opens_eq_true_iff.1 (by decide)
  have first : IsFirstHeading (Naming.pascal "post").toList
      (lines "interface Post \x7b\n  title: string;\n\x7d".toList) 0 :=
    ⟨⟨_, rfl, hheading⟩, fun i hi => absurd hi (Nat.not_lt_zero i)⟩
  have hclose : Closes (lines "interface Post \x7b\n  title: string;\n\x7d".toList) 0 2 := by
    unfold Closes
    decide
  have hread : Attribute.readAll ["author:references"] = .ok [⟨"author", .reference, none⟩] := rfl
  exact run_migrationText (by decide) (.inr ⟨0, 2, first, hclose⟩) (by decide) (by decide)
    (by decide) hread []

end Reconcile
end InterfaceSync
