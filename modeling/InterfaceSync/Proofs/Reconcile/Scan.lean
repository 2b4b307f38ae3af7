import InterfaceSync.Proofs.Lines
import InterfaceSync.Proofs.PlainHeading

/-!
# The scan of a document

`Reconcile.scanLines` goes over the lines of a document with a phase.  The phase behind a line depends
on the lines in front of it and not on what becomes of them, so a scan can be taken apart at any line.
What it counts on its way can be told afterwards from the lines (`differing`), so all the rest is said of
the lines and the phase alone (`settleLines`).

* `next_bare`: the question mark of a declaration is not seen.
* `snd_scanLines`: what is counted is how many lines differ.
* `settleLines_append`: the scan of two stretches of lines, one after the other.
* `map_bare_settleLines`: without the question marks the lines are the ones from before.
* `lines_text_run`: the lines of the reconciled text are the lines that the scan left.
* `settleLines_of_forall_not_isHeading`: without a heading nothing happens.
-/

namespace InterfaceSync

open Text

namespace Text.Line

/-- A line without the question mark of a declaration. -/
def bare (l : Line) : Line := ⟨FieldLine.bare l.body, l.ending⟩

theorem isEnded_bare_iff {l : Line} : l.bare.IsEnded ↔ l.IsEnded := by
  have hmem : '\n' ∈ l.bare.body ↔ '\n' ∈ l.body := FieldLine.mem_bare_iff (by decide)
  have hlast : l.bare.body.getLast? = l.body.getLast? := FieldLine.getLast?_bare l.body
  constructor
  · rintro ⟨h, hending⟩
    rw [hmem] at h
    rw [hlast] at hending
    exact ⟨h, hending⟩
  · rintro ⟨h, hending⟩
    rw [← hmem] at h
    rw [← hlast] at hending
    exact ⟨h, hending⟩

end Text.Line

/-- Whether lines are a cut does not depend on the question marks. -/
theorem Text.IsCut.of_map_bare {list other : List Line} (h : IsCut list)
    (heq : other.map Line.bare = list.map Line.bare) : IsCut other := by
  induction h generalizing other with
  | nil =>
    rw [List.map_nil, List.map_eq_nil_iff] at heq
    rw [heq]
    exact .nil
  | @last body notMem ne_nil =>
    obtain ⟨l, rfl, hl⟩ := List.map_eq_singleton_iff.1 heq
    obtain ⟨body', ending⟩ := l
    obtain ⟨hbody, hending⟩ := Line.mk.inj hl
    simp only at hbody hending
    rw [hending]
    refine .last ?_ ?_
    · rw [← FieldLine.mem_bare_iff (by decide), hbody, FieldLine.mem_bare_iff (by decide)]
      exact notMem
    · rw [Ne, ← FieldLine.bare_eq_nil_iff, hbody, FieldLine.bare_eq_nil_iff]
      exact ne_nil
  | @cons l rest ended _ ih =>
    obtain ⟨l', rest', rfl, hl, hrest⟩ := List.map_eq_cons_iff.1 heq
    refine .cons ?_ (ih hrest)
    rw [← Line.isEnded_bare_iff, hl, Line.isEnded_bare_iff]
    exact ended

namespace Reconcile

/-! ## One line -/

/-- What becomes of the body of a line between two phases. -/
def settledBody (required : List String) (before after : Phase) (body : List Char) : List Char :=
  if before.declaresBetween after then FieldLine.settle required body else body

/-- A line becomes what it is rewritten to, or stays as it is. -/
theorem getD_rewrite? (required : List String) (before after : Phase) (body : List Char) :
    (before.rewrite? required after body).getD body = settledBody required before after body := by
  unfold Phase.rewrite? settledBody
  split
  · rfl
  · rfl

/-- A line that is rewritten becomes another one. -/
theorem Phase.ne_of_rewrite? {required : List String} {before after : Phase}
    {body rewritten : List Char} (h : before.rewrite? required after body = some rewritten) :
    rewritten ≠ body := by
  unfold Phase.rewrite? at h
  split at h
  · exact FieldLine.ne_of_rewrite? h
  · simp at h

@[simp] theorem bare_settledBody (required : List String) (before after : Phase) (body : List Char) :
    FieldLine.bare (settledBody required before after body) = FieldLine.bare body := by
  unfold settledBody
  split
  · exact FieldLine.bare_settle required body
  · rfl

/-- Behind a line that is no heading the scan still searches. -/
theorem next_searching_of_not_isHeading {interfaceName body : List Char}
    (h : ¬ Heading.IsHeading interfaceName body) :
    Phase.next interfaceName .searching body = .searching := by
  rw [Phase.next, Heading.opens_eq_false_iff.2 h, if_neg Bool.false_ne_true]

/-- A line that declares a field is no heading, with its mark or without. -/
theorem isHeading_bare_iff {interfaceName body : List Char} :
    Heading.IsHeading interfaceName (FieldLine.bare body) ↔ Heading.IsHeading interfaceName body := by
  cases h : FieldLine.read? body with
  | none => rw [FieldLine.bare_of_read?_eq_none h]
  | some l =>
    obtain ⟨hl, hbody⟩ := FieldLine.read?_eq_some_iff.1 h
    have hbare : ¬ Heading.IsHeading interfaceName _ :=
      Heading.not_isHeading_of_isDeclared (hl.withOptional false)
    have hmarked : ¬ Heading.IsHeading interfaceName _ := Heading.not_isHeading_of_isDeclared hl
    rw [FieldLine.bare_of_read? h, ← hbody]
    exact iff_of_false hbare hmarked

/-- **The phase behind a line does not depend on the question mark.** -/
theorem next_bare (interfaceName : List Char) (phase : Phase) (body : List Char) :
    phase.next interfaceName (FieldLine.bare body) = phase.next interfaceName body := by
  have hopens : Heading.opens interfaceName (FieldLine.bare body) =
      Heading.opens interfaceName body := by
    rw [Bool.eq_iff_iff, Heading.opens_eq_true_iff, Heading.opens_eq_true_iff, isHeading_bare_iff]
  cases phase with
  | searching =>
    rw [Phase.next, Phase.next, hopens, FieldLine.balance_bare, FieldLine.opened_bare]
  | inside depth hasOpened =>
    rw [Phase.next, Phase.next, FieldLine.balance_bare, FieldLine.opened_bare]
  | done => rfl

/-! ## The lines that a scan leaves -/

/-- The lines that a scan leaves and the phase behind the last one. -/
def settleLines (interfaceName : List Char) (required : List String) (phase : Phase)
    (list : List Line) : List Line × Phase :=
  (scanLines interfaceName required phase list).1

@[simp] theorem settleLines_nil (interfaceName : List Char) (required : List String) (phase : Phase) :
    settleLines interfaceName required phase [] = ([], phase) := rfl

theorem settleLines_cons (interfaceName : List Char) (required : List String) (phase : Phase)
    (l : Line) (rest : List Line) :
    settleLines interfaceName required phase (l :: rest) =
      (⟨settledBody required phase (phase.next interfaceName l.body) l.body, l.ending⟩ ::
          (settleLines interfaceName required (phase.next interfaceName l.body) rest).1,
        (settleLines interfaceName required (phase.next interfaceName l.body) rest).2) := by
  rw [settleLines, scanLines, ← getD_rewrite?]
  cases phase.rewrite? required (phase.next interfaceName l.body) l.body with
  | none => rfl
  | some rewritten => rfl

/-- A scan keeps the number of lines. -/
theorem length_settleLines (interfaceName : List Char) (required : List String) (phase : Phase)
    (list : List Line) : (settleLines interfaceName required phase list).1.length = list.length := by
  induction list generalizing phase with
  | nil => rfl
  | cons l rest ih => rw [settleLines_cons, List.length_cons, ih, List.length_cons]

/-- A scan keeps the ending of every line. -/
theorem map_ending_settleLines (interfaceName : List Char) (required : List String) (phase : Phase)
    (list : List Line) :
    (settleLines interfaceName required phase list).1.map Line.ending = list.map Line.ending := by
  induction list generalizing phase with
  | nil => rfl
  | cons l rest ih => rw [settleLines_cons, List.map_cons, ih, List.map_cons]

/-- Behind the block nothing changes. -/
theorem settleLines_done (interfaceName : List Char) (required : List String) (list : List Line) :
    settleLines interfaceName required .done list = (list, .done) := by
  induction list with
  | nil => rfl
  | cons l rest ih =>
    have hnext : Phase.next interfaceName .done l.body = .done := rfl
    have hbody : settledBody required .done .done l.body = l.body := rfl
    rw [settleLines_cons, hnext, hbody, ih]

/-! ## Lines that differ -/

/-- How many lines of two documents differ, line by line. -/
def differing (list other : List Line) : Nat := (list.zip other).countP fun p => p.1 ≠ p.2

theorem differing_cons (l l' : Line) (list other : List Line) :
    differing (l :: list) (l' :: other) = differing list other + if l = l' then 0 else 1 := by
  rw [differing, List.zip_cons_cons, List.countP_cons, differing]
  by_cases h : l = l'
  · simp [h]
  · simp [h]

@[simp] theorem differing_self (list : List Line) : differing list list = 0 := by
  induction list with
  | nil => rfl
  | cons l rest ih => rw [differing_cons, ih, if_pos rfl]

/-- Lines are compared one by one, so they can be compared stretch by stretch. -/
theorem differing_append {list other : List Line} (h : list.length = other.length)
    (more others : List Line) : differing (list ++ more) (other ++ others) =
      differing list other + differing more others := by
  rw [differing, List.zip_append h, List.countP_append, ← differing, ← differing]

/-- **What a scan counts is how many lines it changes.** -/
theorem snd_scanLines (interfaceName : List Char) (required : List String) (phase : Phase)
    (list : List Line) : (scanLines interfaceName required phase list).2 =
      differing list (settleLines interfaceName required phase list).1 := by
  induction list generalizing phase with
  | nil => rfl
  | cons l rest ih =>
    rw [settleLines_cons, differing_cons, ← ih, ← getD_rewrite?, scanLines]
    cases h : phase.rewrite? required (phase.next interfaceName l.body) l.body with
    | none =>
      rw [Option.getD_none, if_pos rfl]
      rfl
    | some rewritten =>
      have hne : l ≠ ⟨rewritten, l.ending⟩ := fun hline =>
        Phase.ne_of_rewrite? h (congrArg Line.body hline).symm
      rw [Option.getD_some, if_neg hne]

/-! ## Stretches of lines -/

/-- The scan of two stretches of lines is the scan of the one and, in the phase behind it, of the
other. -/
theorem settleLines_append (interfaceName : List Char) (required : List String) (phase : Phase)
    (list more : List Line) :
    settleLines interfaceName required phase (list ++ more) =
      ((settleLines interfaceName required phase list).1 ++
          (settleLines interfaceName required
            (settleLines interfaceName required phase list).2 more).1,
        (settleLines interfaceName required
          (settleLines interfaceName required phase list).2 more).2) := by
  induction list generalizing phase with
  | nil => rfl
  | cons l rest ih =>
    rw [List.cons_append, settleLines_cons, ih, settleLines_cons]
    rfl

/-- The phase behind lines, which does not depend on what is required. -/
theorem snd_settleLines (interfaceName : List Char) (required : List String) (phase : Phase)
    (list : List Line) : (settleLines interfaceName required phase list).2 =
      list.foldl (fun p l => p.next interfaceName l.body) phase := by
  induction list generalizing phase with
  | nil => rfl
  | cons l rest ih => rw [settleLines_cons, ih, List.foldl_cons]

/-- Without the question marks the lines are the ones from before. -/
theorem map_bare_settleLines (interfaceName : List Char) (required : List String) (phase : Phase)
    (list : List Line) :
    (settleLines interfaceName required phase list).1.map Line.bare = list.map Line.bare := by
  induction list generalizing phase with
  | nil => rfl
  | cons l rest ih =>
    rw [settleLines_cons, List.map_cons, List.map_cons, ih]
    simp only [Line.bare, bare_settledBody]

theorem isCut_settleLines (interfaceName : List Char) (required : List String) (phase : Phase)
    {list : List Line} (h : IsCut list) :
    IsCut (settleLines interfaceName required phase list).1 :=
  h.of_map_bare (map_bare_settleLines interfaceName required phase list)

/-- Without a heading nothing happens. -/
theorem settleLines_of_forall_not_isHeading {interfaceName : List Char} (required : List String)
    {list : List Line} (h : ∀ l ∈ list, ¬ Heading.IsHeading interfaceName l.body) :
    settleLines interfaceName required .searching list = (list, .searching) := by
  induction list with
  | nil => rfl
  | cons l rest ih =>
    rw [List.forall_mem_cons] at h
    rw [settleLines_cons, next_searching_of_not_isHeading h.1, ih h.2]
    rfl

/-! ## The whole document -/

section Run

variable (modelName : String) (required : List String) (text : List Char)

/-- The scan of a whole document. -/
def scan : List Line × Phase :=
  settleLines (Naming.pascal modelName).toList required .searching (lines text)

theorem text_run : (run modelName required text).text = unlines (scan modelName required text).1 :=
  rfl

theorem blockFound_run :
    (run modelName required text).blockFound = ((scan modelName required text).2 != .searching) :=
  rfl

/-- The block is unterminated if the scan ends inside it. -/
theorem unterminated_run : (run modelName required text).unterminated =
    match (scan modelName required text).2 with | .inside _ _ => true | _ => false :=
  rfl

/-- The number of changed lines is the number of lines that differ. -/
theorem changedLines_run : (run modelName required text).changedLines =
    differing (lines text) (scan modelName required text).1 :=
  snd_scanLines _ required .searching (lines text)

/-- What is reported is read off the scan. -/
theorem run_eq : run modelName required text =
    { text := unlines (scan modelName required text).1
      blockFound := (scan modelName required text).2 != .searching
      changedLines := differing (lines text) (scan modelName required text).1
      unterminated := match (scan modelName required text).2 with | .inside _ _ => true | _ => false } := by
  rw [← changedLines_run]
  rfl

theorem length_scan : (scan modelName required text).1.length = (lines text).length :=
  length_settleLines _ required .searching (lines text)

theorem isCut_scan : IsCut (scan modelName required text).1 :=
  isCut_settleLines _ required .searching (isCut_lines text)

/-- **The lines of the reconciled text are the lines that the scan left.** -/
theorem lines_text_run :
    lines (run modelName required text).text = (scan modelName required text).1 :=
  lines_unlines (isCut_scan modelName required text)

/-- Reconciliation keeps the lines but for their question marks. -/
theorem map_bare_lines_text_run :
    (lines (run modelName required text).text).map Line.bare = (lines text).map Line.bare := by
  rw [lines_text_run]
  exact map_bare_settleLines _ required .searching (lines text)

end Run

end Reconcile
end InterfaceSync
