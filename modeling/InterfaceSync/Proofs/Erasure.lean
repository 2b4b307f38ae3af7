import InterfaceSync.Proofs.Reconcile.Scan
import InterfaceSync.Proofs.Session

/-!
# Documents without their question marks

What a session does to a document is to append texts to it and to settle question marks.  So a document
is followed through a session by looking past the question marks.  A text that is appended may go on
with a last line that is not ended, and that line may have been settled before; looking past the marks
before or after the line is completed makes no difference.

* `Text.eraseMarks`: a text without the question marks of its declarations.
* `eraseMarks_append`: erasing marks and appending.
* `eraseMarks_text_run`: a reconciliation is not seen.
* `eraseMarks_session`: a session loses nothing, doubles nothing and keeps the order.
-/

namespace InterfaceSync

namespace FieldLine

/-- A character behind a line that does not make it a declaration stays behind the line without its
mark. -/
theorem bare_concat {c : Char} (hc : c ≠ ':') (body : List Char) :
    bare (body ++ [c]) = bare body ++ [c] := by
  cases h : read? body with
  | some l =>
    rw [bare_of_read? (read?_append h [c]), bare_of_read? h]
    simp [text]
  | none =>
    have hnone := read?_eq_none_iff.1 h
    have hconcat : read? (body ++ [c]) = none := by
      refine read?_eq_none_iff.2 fun l hl htext => ?_
      obtain ⟨after, hafter⟩ := hl.exists_rest_eq
      rcases List.eq_nil_or_concat after with rfl | ⟨front, d, rfl⟩
      · rw [text, hafter] at htext
        exact hc (List.cons.inj (List.append_inj' htext rfl).2).1.symm
      · -- What stands in front of the character would be a declaration as well.
        refine hnone { l with rest := ':' :: front }
          ⟨hl.indent_isSpace, hl.exists_name_eq, front, rfl⟩ ?_
        rw [text, hafter, List.concat_eq_append, ← List.cons_append, ← List.append_assoc] at htext
        exact (List.append_inj' htext rfl).1
    rw [bare_of_read?_eq_none h, bare_of_read?_eq_none hconcat]

end FieldLine

namespace Text

/-- A text without the question marks of the lines that declare a field. -/
def eraseMarks (text : List Char) : List Char :=
  unlines ((lines text).map Line.bare)

/-! ## Line by line -/

theorem eraseMarks_unfinished {body : List Char} (h : '\n' ∉ body) :
    eraseMarks body = FieldLine.bare body := by
  cases body with
  | nil => rfl
  | cons c rest =>
    rw [eraseMarks, lines_unfinished h (List.cons_ne_nil c rest), Line.ofText_unfinished h]
    simp [unlines, Line.bare, Line.text]

/-- The carriage return in front of a line feed belongs to the ending of a line, and stays what it is if
it is taken for the end of the body. -/
theorem text_bare_ofText (body : List Char) :
    (Line.ofText (body ++ ['\n'])).bare.text = FieldLine.bare body ++ ['\n'] := by
  by_cases hlast : body.getLast? = some '\r'
  · obtain ⟨front, rfl⟩ := List.getLast?_eq_some_iff.1 hlast
    rw [FieldLine.bare_concat (by decide), List.append_assoc, List.singleton_append, Line.ofText_crlf,
      List.append_assoc]
    rfl
  · rw [Line.ofText_feed hlast]
    rfl

theorem eraseMarks_finished {body : List Char} (h : '\n' ∉ body) (rest : List Char) :
    eraseMarks (body ++ '\n' :: rest) = FieldLine.bare body ++ '\n' :: eraseMarks rest := by
  rw [eraseMarks, lines_finished h, List.map_cons, unlines_cons, text_bare_ofText, List.append_assoc]
  rfl

/-! ## Texts put together -/

/-- A line without its mark can be completed in place of the line. -/
theorem eraseMarks_bare_append {body : List Char} (h : '\n' ∉ body) (more : List Char) :
    eraseMarks (FieldLine.bare body ++ more) = eraseMarks (body ++ more) := by
  have hbare := FieldLine.feed_not_mem_bare h
  have hjoin : ∀ {front next : List Char}, '\n' ∉ front → '\n' ∉ next → '\n' ∉ front ++ next :=
    fun hfront hnext hmem => (List.mem_append.1 hmem).elim hfront hnext
  induction more using feed_induction with
  | unfinished next hnext =>
    rw [eraseMarks_unfinished (hjoin hbare hnext), eraseMarks_unfinished (hjoin h hnext),
      FieldLine.bare_append_bare]
  | finished next rest hnext _ =>
    rw [← List.append_assoc, ← List.append_assoc, eraseMarks_finished (hjoin hbare hnext),
      eraseMarks_finished (hjoin h hnext), FieldLine.bare_append_bare]

/-- **Erasing the marks of a text and then appending to it** is not seen once marks are erased. -/
theorem eraseMarks_append (text more : List Char) :
    eraseMarks (eraseMarks text ++ more) = eraseMarks (text ++ more) := by
  induction text using feed_induction with
  | unfinished body hbody => rw [eraseMarks_unfinished hbody, eraseMarks_bare_append hbody]
  | finished body rest hbody ih =>
    have hbare := FieldLine.feed_not_mem_bare hbody
    rw [eraseMarks_finished hbody, List.append_assoc, List.cons_append, eraseMarks_finished hbare, ih,
      FieldLine.bare_bare, List.append_assoc, List.cons_append, eraseMarks_finished hbody]

/-- Texts that are the same without their marks stay the same when something is appended. -/
theorem eraseMarks_append_congr {text other : List Char} (h : eraseMarks text = eraseMarks other)
    (more : List Char) : eraseMarks (text ++ more) = eraseMarks (other ++ more) := by
  rw [← eraseMarks_append text, h, eraseMarks_append]

end Text

open Text

/-- A reconciliation is not seen once marks are erased. -/
theorem Reconcile.eraseMarks_text_run (modelName : String) (required : List String)
    (text : List Char) : eraseMarks (run modelName required text).text = eraseMarks text := by
  rw [eraseMarks, map_bare_lines_text_run, eraseMarks]

/-! ## Sessions -/

/-- The texts that the steps of a session answered with, put together. -/
def appendedText (log : List (Step × Option String)) : String :=
  String.join (log.filterMap Prod.snd)

theorem appendedText_nil : appendedText [] = "" := rfl

theorem appendedText_cons (step : Step) (answer : Option String) (log : List (Step × Option String)) :
    appendedText ((step, answer) :: log) = answer.getD "" ++ appendedText log := by
  cases answer with
  | none => simp [appendedText]
  | some text => simp [appendedText]

/-- One step makes, marks aside, the text from before followed by its answer. -/
theorem Syncer.Effect.eraseMarks_eq {s : Syncer} {operation : Operation} {answer : Option String}
    {before after : String} (effect : s.Effect operation answer before after) :
    eraseMarks after.toList = eraseMarks (before ++ answer.getD "").toList := by
  cases effect with
  | generate => rfl
  | generateKnown => rfl
  | migrate => rfl
  | sync known =>
    rw [reconciled, String.toList_ofList, Reconcile.eraseMarks_text_run, Option.getD_none,
      String.append_empty]

/-- The steps of a session make, marks aside, the text from before followed by their answers. -/
theorem Effects.eraseMarks_eq {doc : Document} {log : List (Step × Option String)}
    {before after : String} (effects : Effects doc log before after) :
    eraseMarks after.toList = eraseMarks (before ++ appendedText log).toList := by
  induction effects with
  | nil text => rw [appendedText_nil, String.append_empty]
  | @cons step answer log before between after effect _ ih =>
    have hstep := eraseMarks_append_congr effect.eraseMarks_eq (appendedText log).toList
    rw [ih, String.toList_append, hstep, ← String.toList_append, String.append_assoc,
      appendedText_cons]

/-- **A session loses nothing, doubles nothing and keeps the order**: without the question marks, the
document behind it is the document in front of it followed by the texts that the steps answered with.  Of
a document that is found missing while a file stands at the place that its path spells nothing is said
here: it has no text, and it does not hold nothing either (`Document.Holds`). -/
theorem eraseMarks_session {doc : Document} {w : Workspace} {before : Option String}
    (h : doc.HoldsIn w before) (steps : List Step) :
    ∃ after, doc.HoldsIn (session doc steps w).2 after ∧
      eraseMarks (after.getD "").toList =
        eraseMarks (before.getD "" ++ appendedText (session doc steps w).1).toList := by
  obtain ⟨after, hafter, effects⟩ := session_cases h steps
  exact ⟨after, hafter, effects.eraseMarks_eq⟩

/-- The document may end within a declaration of the model that is synchronised. -/
theorem eraseMarks_session_unended :
    ∃ after, Document.inRoot.HoldsIn (session Document.inRoot postSteps
        (Document.onlyInRoot (some "interface Post \x7b\n  title?: str"))).2 after ∧
      eraseMarks (after.getD "").toList = eraseMarks ("interface Post \x7b\n  title?: str" ++
        appendedText (session Document.inRoot postSteps
          (Document.onlyInRoot (some "interface Post \x7b\n  title?: str"))).1).toList :=
  eraseMarks_session (Document.holdsIn_onlyInRoot _) postSteps

end InterfaceSync
