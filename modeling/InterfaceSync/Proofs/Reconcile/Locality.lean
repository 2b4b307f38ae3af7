import InterfaceSync.Proofs.Reconcile.Specification

/-!
# Reconciliation of a text in two parts

Where one part of a text ends in a line feed, the lines of the other part are lines of their own, and the
scan of the whole is the scan of the one part and, in the phase behind it, of the other.  Of all that a
phase can say only two things matter here: behind the block nothing changes any more, and in front of it
nothing has changed yet.  So whatever follows the block, a second block of the same name or stray braces
included, is left alone, and whatever stands in front of it is of no account.

* `scan_append`: the scan of a text in two parts.
* `run_append_of_done`, `run_append_of_absent`: one part holds the whole block.
* `run_append_isLocal`: the two of them.
-/

namespace InterfaceSync.Reconcile

open Text

/-- Lines that are the same in both do not count. -/
theorem differing_append_self {list other : List Line} (h : list.length = other.length)
    (more : List Line) : differing (list ++ more) (other ++ more) = differing list other := by
  rw [differing_append h, differing_self, Nat.add_zero]

section Run

variable {modelName : String} {required : List String} {text : List Char}

/-- **The scan of a text in two parts**: the second part is scanned in the phase behind the first. -/
theorem scan_append (h : EndsInFeed text) (more : List Char) :
    scan modelName required (text ++ more) =
      ((scan modelName required text).1 ++
          (settleLines (Naming.pascal modelName).toList required (scan modelName required text).2
            (lines more)).1,
        (settleLines (Naming.pascal modelName).toList required (scan modelName required text).2
          (lines more)).2) := by
  rw [scan, lines_append_of_endsInFeed h, settleLines_append, ← scan]

/-- Behind the block everything stays as it is and nothing is reported. -/
theorem run_append_of_done (h : EndsInFeed text) (done : (scan modelName required text).2 = .done)
    (more : List Char) : run modelName required (text ++ more) =
      { run modelName required text with text := (run modelName required text).text ++ more } := by
  have hscan : scan modelName required (text ++ more) =
      ((scan modelName required text).1 ++ lines more, .done) := by
    rw [scan_append h, done, settleLines_done]
  have hcount := differing_append_self (length_scan modelName required text).symm (lines more)
  rw [run_eq, run_eq, hscan, done, lines_append_of_endsInFeed h]
  simp only [unlines_append, unlines_lines, hcount]

/-- In front of the block everything stays as it is and nothing is reported. -/
theorem run_append_of_absent (h : EndsInFeed text)
    (absent : ∀ l ∈ lines text, ¬ Heading.IsHeading (Naming.pascal modelName).toList l.body)
    (more : List Char) : run modelName required (text ++ more) =
      { run modelName required more with text := text ++ (run modelName required more).text } := by
  have hfront : scan modelName required text = (lines text, .searching) :=
    settleLines_of_forall_not_isHeading required absent
  have hscan : scan modelName required (text ++ more) =
      (lines text ++ (scan modelName required more).1, (scan modelName required more).2) := by
    rw [scan_append h, hfront]
    rfl
  have hcount : differing (lines text ++ lines more)
      (lines text ++ (scan modelName required more).1) =
        differing (lines more) (scan modelName required more).1 := by
    rw [differing_append rfl, differing_self, Nat.zero_add]
  rw [run_eq, run_eq, hscan, lines_append_of_endsInFeed h]
  simp only [unlines_append, unlines_lines, hcount]

/-- **Reconciliation is local.**  Of a text in two parts, the first of which ends in a line feed or is
empty: if the first part holds the block and the line that closes it, it comes out as it would alone, with
the same report, and the second part comes out as it is.  If the first part holds no heading of the
interface, it comes out as it is, and the second part as it would alone, with the same report. -/
theorem run_append_isLocal (h : EndsInFeed text) (more : List Char) :
    ((∃ a e, IsFirstHeading (Naming.pascal modelName).toList (lines text) a ∧
        Closes (lines text) a e) →
      run modelName required (text ++ more) =
        { run modelName required text with text := (run modelName required text).text ++ more }) ∧
    ((∀ l ∈ lines text, ¬ Heading.IsHeading (Naming.pascal modelName).toList l.body) →
      run modelName required (text ++ more) =
        { run modelName required more with text := text ++ (run modelName required more).text }) := by
  refine ⟨?_, fun absent => run_append_of_absent h absent more⟩
  rintro ⟨a, e, first, hclose⟩
  rcases snd_scan_of_present required first with ⟨hdone, -⟩ | ⟨-, hopen⟩
  · exact run_append_of_done h hdone more
  · exact absurd hclose (hopen e)

/-- A block in front of a second one of its name that is never closed, and that second one behind lines
without a heading. -/
theorem run_append_isLocal_posts :
    let block := "interface Post \x7b\r\n  title: string;\n\x7d\n".toList
    let remark := "// models \x7d\n".toList
    let second := "\uFEFFinterface Post \x7b\n  body: string;".toList
    run "post" [] (block ++ second) =
        { run "post" [] block with text := (run "post" [] block).text ++ second } ∧
      run "post" [] (remark ++ second) =
        { run "post" [] second with text := remark ++ (run "post" [] second).text } := by
  have hheading : Heading.IsHeading (Naming.pascal "post").toList "interface Post \x7b".toList :=
    Heading.opens_eq_true_iff.1 (by decide)
  have first : IsFirstHeading (Naming.pascal "post").toList
      (lines "interface Post \x7b\r\n  title: string;\n\x7d\n".toList) 0 :=
    ⟨⟨_, rfl, hheading⟩, fun i hi => absurd hi (Nat.not_lt_zero i)⟩
  have hclose : Closes (lines "interface Post \x7b\r\n  title: string;\n\x7d\n".toList) 0 2 := by
    unfold Closes
    decide
  have absent : ∀ l ∈ lines "// models \x7d\n".toList,
      ¬ Heading.IsHeading (Naming.pascal "post").toList l.body := by
    simp only [← Heading.opens_eq_false_iff]
    decide
  exact ⟨(run_append_isLocal (.inr rfl) _).1 ⟨0, 2, first, hclose⟩,
    (run_append_isLocal (.inr rfl) _).2 absent⟩

end Run

end InterfaceSync.Reconcile
