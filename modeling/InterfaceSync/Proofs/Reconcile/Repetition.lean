import InterfaceSync.Proofs.Reconcile.Scan

/-!
# Reconciling a document again

A scan takes its decisions by what it sees of the lines apart from the question marks, so a second scan
of the same document takes the decisions of the first one and settles the same lines.  Whatever the
first one had settled is settled anew (`settleLines_settleLines`), and of two reconciliations of a
document for one model the later one decides (`run_text_run`).
-/

namespace InterfaceSync.Reconcile

open Text

/-- The phase behind a line is the phase behind the line once it is settled. -/
theorem next_settledBody (interfaceName : List Char) (required : List String) (phase : Phase)
    (body : List Char) :
    phase.next interfaceName (settledBody required phase (phase.next interfaceName body) body) =
      phase.next interfaceName body := by
  rw [← next_bare, bare_settledBody, next_bare]

theorem settledBody_settledBody (required earlier : List String) (before after : Phase)
    (body : List Char) :
    settledBody required before after (settledBody earlier before after body) =
      settledBody required before after body := by
  unfold settledBody
  split
  · exact FieldLine.settle_settle required earlier body
  · rfl

/-- **The scan of lines that a scan left is the scan of the lines from before.** -/
theorem settleLines_settleLines (interfaceName : List Char) (required earlier : List String)
    (phase : Phase) (list : List Line) :
    settleLines interfaceName required phase (settleLines interfaceName earlier phase list).1 =
      settleLines interfaceName required phase list := by
  induction list generalizing phase with
  | nil => rfl
  | cons l rest ih =>
    rw [settleLines_cons _ earlier, settleLines_cons, settleLines_cons]
    simp only [next_settledBody, settledBody_settledBody, ih]

theorem scan_text_run (modelName : String) (required earlier : List String) (text : List Char) :
    scan modelName required (run modelName earlier text).text = scan modelName required text := by
  rw [scan, lines_text_run, scan, settleLines_settleLines, scan]

/-- **Of two reconciliations of a document for one model the later one decides**: it gives the text,
and finds the block and its end, as if the earlier one had not been.  In particular the second of two
equal ones leaves the text alone and changes no line. -/
theorem run_text_run (modelName : String) (required earlier : List String) (text : List Char) :
    (run modelName required (run modelName earlier text).text).text =
        (run modelName required text).text ∧
      (run modelName required (run modelName earlier text).text).blockFound =
        (run modelName required text).blockFound ∧
      (run modelName required (run modelName earlier text).text).unterminated =
        (run modelName required text).unterminated ∧
      (run modelName earlier (run modelName earlier text).text).text =
        (run modelName earlier text).text ∧
      (run modelName earlier (run modelName earlier text).text).changedLines = 0 := by
  have hscan := scan_text_run modelName required earlier text
  refine ⟨?_, ?_, ?_, ?_, ?_⟩
  · rw [text_run, hscan, ← text_run]
  · rw [blockFound_run, hscan, ← blockFound_run]
  · rw [unterminated_run, hscan, ← unterminated_run]
  · rw [text_run, scan_text_run, ← text_run]
  · rw [changedLines_run, scan_text_run, lines_text_run, differing_self]

end InterfaceSync.Reconcile
