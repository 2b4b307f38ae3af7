import InterfaceSync.Proofs.Reconcile.Scan
import Mathlib.Data.Int.Notation
import Mathlib.Data.Nat.Find

/-!
# What reconciliation does, said without a scan

The lines of a document are the one cut that makes it up, and they are numbered.  The block begins at the
first heading.  Its depth behind a line is the number of braces opened from the heading to that line less
the number of braces closed, and it is closed behind the first line up to which a brace has been opened
and the depth is not positive.  In between, at a positive depth, the declarations get their question
marks.

* `IsFirstHeading`, `depth`, `Closes`, `InBlock`: the block, by the numbers of lines.
* `IsSettled`: what becomes of the body of a line.
* `IsReconciled`: what becomes of a document, and what is reported.
* `phase_behind`: the phase of the scan behind a line of the block or behind the block.
* `run_eq_iff`: reconciliation gives that, and nothing else is that.
-/

namespace InterfaceSync.Reconcile

open Text

/-! ## The block -/

/-- The number of the first line that is the heading of the interface. -/
def IsFirstHeading (interfaceName : List Char) (list : List Line) (a : ℕ) : Prop :=
  (∃ l ∈ list[a]?, Heading.IsHeading interfaceName l.body) ∧
    ∀ i < a, ∀ l ∈ list[i]?, ¬ Heading.IsHeading interfaceName l.body

/-- The lines with the numbers from `a` to `i`. -/
def stretch (list : List Line) (a i : ℕ) : List Line := (list.take (i + 1)).drop a

/-- How many more braces the lines from `a` to `i` open than they close. -/
def depth (list : List Line) (a i : ℕ) : ℤ :=
  (((stretch list a i).flatMap Line.body).count '\x7b' : ℤ) -
    (((stretch list a i).flatMap Line.body).count '\x7d' : ℤ)

/-- Whether a block that begins at line `a` is closed behind line `i`, if not before. -/
def Closes (list : List Line) (a i : ℕ) : Prop :=
  a ≤ i ∧ i < list.length ∧ (∃ l ∈ stretch list a i, '\x7b' ∈ l.body) ∧ depth list a i ≤ 0

/-- Whether line `i` lies behind the heading at line `a` and in front of the line that closes the
block, at a positive depth. -/
def InBlock (list : List Line) (a i : ℕ) : Prop :=
  a < i ∧ (∀ e, Closes list a e → i < e) ∧ 0 < depth list a i

/-! ## What becomes of the document -/

/-- What becomes of the body of a line: a declaration in the block is optional exactly when its name is
not required, and everything else stays as it is. -/
def IsSettled (required : List String) (inBlock : Prop) (body settled : List Char) : Prop :=
  (inBlock ∧ ∃ l : FieldLine, l.IsDeclared ∧ l.text = body ∧
      settled = { l with optional := decide (String.ofList l.name ∉ required) }.text) ∨
    ((inBlock → ∀ l : FieldLine, l.IsDeclared → l.text ≠ body) ∧ settled = body)

/-- What becomes of a document, and what is reported of it.  `list` are the lines of the document from
before, and `settled` those of the document that comes out. -/
inductive IsReconciled (interfaceName : List Char) (required : List String) (text : List Char) :
    Report → Prop where
  | absent {list : List Line} (cut : IsCutOf list text)
      (noHeading : ∀ l ∈ list, ¬ Heading.IsHeading interfaceName l.body) :
      IsReconciled interfaceName required text ⟨text, false, 0, false⟩
  | present {list settled : List Line} {after : List Char} {a : ℕ} {unterminated : Bool}
      (cut : IsCutOf list text) (cutAfter : IsCutOf settled after)
      (first : IsFirstHeading interfaceName list a)
      (endings : settled.map Line.ending = list.map Line.ending)
      (bodies : ∀ i, ∀ l ∈ list[i]?, ∀ l' ∈ settled[i]?,
        IsSettled required (InBlock list a i) l.body l'.body)
      (closed : unterminated = true ↔ ∀ e, ¬ Closes list a e) :
      IsReconciled interfaceName required text ⟨after, true, differing list settled, unterminated⟩

/-! ## Stretches of lines -/

section Stretch

variable {list : List Line} {a i : ℕ} {l : Line}

theorem stretch_self (h : list[a]? = some l) : stretch list a a = [l] := by
  have hlt := (List.getElem?_eq_some_iff.1 h).1
  rw [stretch, List.take_add_one, h, List.drop_append_of_le_length (by rw [List.length_take]; omega),
    List.drop_eq_nil_of_le (by rw [List.length_take]; omega)]
  rfl

theorem stretch_succ (hai : a ≤ i) (h : list[i + 1]? = some l) :
    stretch list a (i + 1) = stretch list a i ++ [l] := by
  have hlt := (List.getElem?_eq_some_iff.1 h).1
  rw [stretch, List.take_add_one, h, List.drop_append_of_le_length (by rw [List.length_take]; omega)]
  rfl

theorem depth_self (h : list[a]? = some l) : depth list a a = balance l.body := by
  rw [depth, stretch_self h, List.flatMap_singleton, balance]

theorem depth_succ (hai : a ≤ i) (h : list[i + 1]? = some l) :
    depth list a (i + 1) = depth list a i + balance l.body := by
  rw [depth, stretch_succ hai h, List.flatMap_append, List.flatMap_singleton, List.count_append,
    List.count_append, depth, balance]
  omega

/-- Whether a brace is opened on the lines from `a` to `i`. -/
def opensBrace (list : List Line) (a i : ℕ) : Bool :=
  (stretch list a i).any fun l => decide (0 < opened l.body)

theorem opensBrace_eq_true_iff :
    opensBrace list a i = true ↔ ∃ l ∈ stretch list a i, '\x7b' ∈ l.body := by
  rw [opensBrace, List.any_eq_true]
  simp only [decide_eq_true_eq, opened, List.count_pos_iff]

theorem opensBrace_self (h : list[a]? = some l) :
    opensBrace list a a = decide (0 < opened l.body) := by
  rw [opensBrace, stretch_self h, List.any_cons, List.any_nil, Bool.or_false]

theorem opensBrace_succ (hai : a ≤ i) (h : list[i + 1]? = some l) :
    opensBrace list a (i + 1) = (opensBrace list a i || decide (0 < opened l.body)) := by
  rw [opensBrace, stretch_succ hai h, List.any_append, List.any_cons, List.any_nil, Bool.or_false,
    opensBrace]

/-- The depth and the brace decide whether a line closes the block. -/
theorem closes_iff (hai : a ≤ i) (hi : i < list.length) :
    Closes list a i ↔ opensBrace list a i = true ∧ depth list a i ≤ 0 := by
  rw [opensBrace_eq_true_iff]
  exact ⟨fun h => h.2.2, fun h => ⟨hai, hi, h⟩⟩

end Stretch

/-! ## The phases of the scan -/

section Phases

variable {interfaceName : List Char} {list : List Line} {a i : ℕ}

/-- The phase in front of line `i`. -/
def phaseAt (interfaceName : List Char) (list : List Line) (i : ℕ) : Phase :=
  (list.take i).foldl (fun p l => p.next interfaceName l.body) .searching

theorem phaseAt_succ {l : Line} (h : list[i]? = some l) :
    phaseAt interfaceName list (i + 1) =
      (phaseAt interfaceName list i).next interfaceName l.body := by
  rw [phaseAt, List.take_add_one, h, List.foldl_append]
  rfl

/-- Up to the heading the scan searches. -/
theorem phaseAt_of_le (first : IsFirstHeading interfaceName list a) (hi : i ≤ a) :
    phaseAt interfaceName list i = .searching := by
  induction i with
  | zero => rfl
  | succ i ih =>
    cases hl : list[i]? with
    | none =>
      have hlen : list.length ≤ i := List.getElem?_eq_none_iff.1 hl
      have htake : list.take (i + 1) = list.take i := by
        rw [List.take_of_length_le (by omega), List.take_of_length_le hlen]
      rw [phaseAt, htake]
      exact ih (by omega)
    | some l =>
      have hnot := first.2 i (by omega) l hl
      rw [phaseAt_succ hl, ih (by omega), next_searching_of_not_isHeading hnot]

/-- **The phase behind a line from the heading on**: the block is done if it was closed on that line or
in front of it, and otherwise the scan is inside it, at its depth. -/
theorem phase_behind (first : IsFirstHeading interfaceName list a) (hai : a ≤ i)
    (hi : i < list.length) :
    ((∃ e ≤ i, Closes list a e) ∧ phaseAt interfaceName list (i + 1) = .done) ∨
      ((∀ e ≤ i, ¬ Closes list a e) ∧
        phaseAt interfaceName list (i + 1) = .inside (depth list a i) (opensBrace list a i)) := by
  -- The phase that the depth and the brace give is the one of the statement, if none was closed before.
  have atDepth_cases : ∀ j, a ≤ j → j < list.length → (∀ e < j, ¬ Closes list a e) →
      ((∃ e ≤ j, Closes list a e) ∧ Phase.atDepth (depth list a j) (opensBrace list a j) = .done) ∨
        ((∀ e ≤ j, ¬ Closes list a e) ∧ Phase.atDepth (depth list a j) (opensBrace list a j) =
          .inside (depth list a j) (opensBrace list a j)) := by
    intro j haj hj hbefore
    by_cases hclose : Closes list a j
    · refine .inl ⟨⟨j, le_rfl, hclose⟩, if_pos ?_⟩
      exact (closes_iff haj hj).1 hclose
    · refine .inr ⟨fun e he => ?_, if_neg ?_⟩
      · rcases Nat.lt_or_eq_of_le he with hlt | rfl
        · exact hbefore e hlt
        · exact hclose
      · exact fun h => hclose ((closes_iff haj hj).2 h)
  induction i, hai using Nat.le_induction with
  | base =>
    obtain ⟨l, hl, hheading⟩ := first.1
    have hphase : phaseAt interfaceName list (a + 1) =
        .atDepth (depth list a a) (opensBrace list a a) := by
      rw [phaseAt_succ hl, phaseAt_of_le first le_rfl, Phase.next,
        if_pos (Heading.opens_eq_true_iff.2 hheading), depth_self hl, opensBrace_self hl]
    rw [hphase]
    exact atDepth_cases a le_rfl hi fun e he hclose => absurd hclose.1 (by omega)
  | succ i hai ih =>
    have hl : list[i + 1]? = some list[i + 1] := List.getElem?_eq_getElem hi
    rcases ih (by omega) with ⟨⟨e, he, hclose⟩, hphase⟩ | ⟨hopen, hphase⟩
    · refine .inl ⟨⟨e, by omega, hclose⟩, ?_⟩
      rw [phaseAt_succ hl, hphase]
      rfl
    · have hnext : phaseAt interfaceName list (i + 1 + 1) =
          .atDepth (depth list a (i + 1)) (opensBrace list a (i + 1)) := by
        rw [phaseAt_succ hl, hphase, Phase.next, depth_succ hai hl, opensBrace_succ hai hl]
      rw [hnext]
      exact atDepth_cases (i + 1) (by omega) hi fun e he => hopen e (by omega)

/-- A line is read as a declaration exactly when it lies in the block. -/
theorem declaresBetween_iff (first : IsFirstHeading interfaceName list a) (hi : i < list.length) :
    (phaseAt interfaceName list i).declaresBetween (phaseAt interfaceName list (i + 1)) = true ↔
      InBlock list a i := by
  rcases Nat.lt_or_ge a i with hai | hai
  · obtain ⟨j, rfl⟩ := Nat.exists_eq_add_of_lt hai
    rcases phase_behind first (i := a + j + 1) (by omega) hi with
      ⟨⟨e, he, hclose⟩, hphase⟩ | ⟨hopen, hphase⟩
    · rw [hphase]
      constructor
      · intro h
        cases hbefore : phaseAt interfaceName list (a + j + 1) <;>
          simp [hbefore, Phase.declaresBetween] at h
      · intro h
        exact absurd (h.2.1 e hclose) (by omega)
    · rcases phase_behind first (i := a + j) (by omega) (by omega) with
        ⟨⟨e, he, hclose⟩, -⟩ | ⟨-, hbefore⟩
      · exact absurd hclose (hopen e (by omega))
      · rw [hphase, hbefore, Phase.declaresBetween, decide_eq_true_eq]
        constructor
        · exact fun h => ⟨hai, fun e hclose => by by_contra hle; exact hopen e (by omega) hclose, h⟩
        · exact fun h => h.2.2
  · rw [phaseAt_of_le first hai]
    constructor
    · intro h
      simp [Phase.declaresBetween] at h
    · intro h
      exact absurd h.1 (by omega)

end Phases

/-! ## The lines that the scan leaves -/

/-- A line of the scan, given the phases in front of it and behind it. -/
theorem getElem?_settleLines (interfaceName : List Char) (required : List String) (phase : Phase)
    (list : List Line) (i : ℕ) :
    (settleLines interfaceName required phase list).1[i]? =
      list[i]?.map fun l => ⟨settledBody required
        ((list.take i).foldl (fun p l => p.next interfaceName l.body) phase)
        ((list.take (i + 1)).foldl (fun p l => p.next interfaceName l.body) phase) l.body,
        l.ending⟩ := by
  induction list generalizing phase i with
  | nil => rfl
  | cons l rest ih =>
    rw [settleLines_cons]
    cases i with
    | zero => rfl
    | succ i =>
      rw [List.getElem?_cons_succ, ih, List.getElem?_cons_succ, List.take_succ_cons,
        List.take_succ_cons, List.foldl_cons, List.foldl_cons]

theorem getElem?_scan {modelName : String} {required : List String} {text : List Char} {i : ℕ}
    {l : Line} (h : (lines text)[i]? = some l) :
    (scan modelName required text).1[i]? =
      some ⟨settledBody required (phaseAt (Naming.pascal modelName).toList (lines text) i)
        (phaseAt (Naming.pascal modelName).toList (lines text) (i + 1)) l.body, l.ending⟩ := by
  rw [scan, getElem?_settleLines, h]
  rfl

/-- What becomes of a body is what the scan makes of it. -/
theorem isSettled_iff {required : List String} {inBlock : Prop} {before after : Phase}
    {body settled : List Char} (h : before.declaresBetween after = true ↔ inBlock) :
    IsSettled required inBlock body settled ↔ settled = settledBody required before after body := by
  unfold settledBody
  by_cases hin : inBlock
  · rw [if_pos (h.2 hin)]
    cases hread : FieldLine.read? body with
    | none =>
      have hnone := FieldLine.read?_eq_none_iff.1 hread
      rw [FieldLine.settle_of_read?_eq_none hread]
      constructor
      · rintro (⟨-, l, hl, hbody, -⟩ | ⟨-, hsettled⟩)
        · exact absurd hbody (hnone l hl)
        · exact hsettled
      · exact fun hsettled => .inr ⟨fun _ => hnone, hsettled⟩
    | some l =>
      obtain ⟨hl, hbody⟩ := FieldLine.read?_eq_some_iff.1 hread
      have hflag : ∀ name : String, (!required.contains name) = decide (name ∉ required) := by
        intro name
        rw [List.contains_eq_mem, decide_not]
      rw [FieldLine.settle_of_read? hread, hflag]
      constructor
      · rintro (⟨-, l', hl', hbody', hsettled⟩ | ⟨hnone, -⟩)
        · rw [FieldLine.read?_eq_some_iff.2 ⟨hl', hbody'⟩, Option.some.injEq] at hread
          rw [hsettled, hread]
        · exact absurd hbody (hnone hin l hl)
      · exact fun hsettled => .inl ⟨hin, l, hl, hbody, hsettled⟩
  · rw [if_neg fun hd => hin (h.1 hd)]
    constructor
    · rintro (⟨hin', -⟩ | ⟨-, hsettled⟩)
      · exact absurd hin' hin
      · exact hsettled
    · exact fun hsettled => .inr ⟨fun hin' => absurd hin' hin, hsettled⟩

/-! ## The whole document -/

section Run

variable {modelName : String} {required : List String} {text : List Char} {a : ℕ}

theorem snd_scan : (scan modelName required text).2 =
    phaseAt (Naming.pascal modelName).toList (lines text) (lines text).length := by
  rw [scan, snd_settleLines, phaseAt, List.take_length]

/-- Without a heading the document stays as it is. -/
theorem run_of_absent
    (h : ∀ l ∈ lines text, ¬ Heading.IsHeading (Naming.pascal modelName).toList l.body) :
    run modelName required text = ⟨text, false, 0, false⟩ := by
  have hscan : scan modelName required text = (lines text, .searching) :=
    settleLines_of_forall_not_isHeading required h
  rw [run_eq, hscan, unlines_lines, differing_self]
  rfl

/-- The lines of a document are what the scan leaves exactly when their endings are the ones from
before and their bodies are settled. -/
theorem eq_scan_iff (first : IsFirstHeading (Naming.pascal modelName).toList (lines text) a)
    (list : List Line) :
    list = (scan modelName required text).1 ↔
      list.map Line.ending = (lines text).map Line.ending ∧
        ∀ i, ∀ l ∈ (lines text)[i]?, ∀ l' ∈ list[i]?,
          IsSettled required (InBlock (lines text) a i) l.body l'.body := by
  have hdeclares : ∀ {i l}, (lines text)[i]? = some l → _ := fun {i l} hl =>
    declaresBetween_iff first (List.getElem?_eq_some_iff.1 hl).1
  constructor
  · rintro rfl
    refine ⟨map_ending_settleLines _ required _ _, fun i l hl l' hl' => ?_⟩
    rw [Option.mem_def, getElem?_scan hl, Option.some.injEq] at hl'
    rw [isSettled_iff (hdeclares hl), ← hl']
  · rintro ⟨hending, hbody⟩
    have hlength : list.length = (lines text).length := by
      simpa using congrArg List.length hending
    apply List.ext_getElem?
    intro i
    cases hl : (lines text)[i]? with
    | none =>
      have hlen := List.getElem?_eq_none_iff.1 hl
      rw [List.getElem?_eq_none (by omega), List.getElem?_eq_none]
      rwa [scan, length_settleLines]
    | some l =>
      obtain ⟨hi, -⟩ := List.getElem?_eq_some_iff.1 hl
      obtain ⟨l', hl'⟩ : ∃ l', list[i]? = some l' :=
        ⟨_, List.getElem?_eq_getElem (by omega)⟩
      have hsame : l'.ending = l.ending := by
        have := congrArg (·[i]?) hending
        simpa [hl, hl'] using this
      have hsettled := (isSettled_iff (hdeclares hl)).1 (hbody i l hl l' hl')
      rw [getElem?_scan hl, hl', ← hsettled, ← hsame]

/-- The scan of a document with a heading finds the block, and ends inside it exactly when no line
closes it. -/
theorem snd_scan_of_present (required : List String)
    (first : IsFirstHeading (Naming.pascal modelName).toList (lines text) a) :
    ((scan modelName required text).2 = .done ∧ ∃ e, Closes (lines text) a e) ∨
      ((∃ d o, (scan modelName required text).2 = .inside d o) ∧
        ∀ e, ¬ Closes (lines text) a e) := by
  obtain ⟨l, hl, -⟩ := first.1
  have ha : a < (lines text).length := (List.getElem?_eq_some_iff.1 hl).1
  have hlast : (lines text).length - 1 + 1 = (lines text).length := by omega
  rw [snd_scan, ← hlast]
  rcases phase_behind first (i := (lines text).length - 1) (by omega) (by omega) with
    ⟨⟨e, -, hclose⟩, hphase⟩ | ⟨hopen, hphase⟩
  · exact .inl ⟨hphase, e, hclose⟩
  · refine .inr ⟨⟨_, _, hphase⟩, fun e hclose => ?_⟩
    have he := hclose.2.1
    exact hopen e (by omega) hclose

/-- What is reported of a document with a heading. -/
theorem run_of_present (required : List String)
    (first : IsFirstHeading (Naming.pascal modelName).toList (lines text) a) :
    (run modelName required text).blockFound = true ∧
      ((run modelName required text).unterminated = true ↔ ∀ e, ¬ Closes (lines text) a e) := by
  rw [blockFound_run, unterminated_run]
  rcases snd_scan_of_present required first with ⟨hphase, hclose⟩ | ⟨⟨d, o, hphase⟩, hopen⟩
  · rw [hphase]
    refine ⟨rfl, ?_⟩
    simpa using hclose
  · rw [hphase]
    exact ⟨rfl, fun _ => hopen, fun _ => rfl⟩

end Run

/-- A document has a first heading or none. -/
theorem exists_isFirstHeading {interfaceName : List Char} {list : List Line}
    (h : ¬ ∀ l ∈ list, ¬ Heading.IsHeading interfaceName l.body) :
    ∃ a, IsFirstHeading interfaceName list a := by
  classical
  have hexists : ∃ i : ℕ, ∃ l ∈ list[i]?, Heading.IsHeading interfaceName l.body := by
    push Not at h
    obtain ⟨l, hl, hheading⟩ := h
    obtain ⟨i, hi⟩ := List.mem_iff_getElem?.1 hl
    exact ⟨i, l, hi, hheading⟩
  refine ⟨Nat.find hexists, Nat.find_spec hexists, fun i hi l hl hheading => ?_⟩
  exact Nat.find_min hexists hi ⟨l, hl, hheading⟩

/-- A heading anywhere in the document is enough for the block to be found. -/
theorem blockFound_run_of_mem {modelName : String} (required : List String)
    {text : List Char} {l : Line} (hl : l ∈ lines text)
    (hheading : Heading.IsHeading (Naming.pascal modelName).toList l.body) :
    (run modelName required text).blockFound = true := by
  obtain ⟨a, first⟩ := exists_isFirstHeading fun absent => absent l hl hheading
  exact (run_of_present required first).1

/-- A document in which no block was found stays as it is. -/
theorem text_run_of_not_blockFound {modelName : String} {required : List String} {text : List Char}
    (h : (run modelName required text).blockFound = false) :
    (run modelName required text).text = text := by
  by_cases habsent : ∀ l ∈ lines text, ¬ Heading.IsHeading (Naming.pascal modelName).toList l.body
  · rw [run_of_absent habsent]
  · obtain ⟨a, first⟩ := exists_isFirstHeading habsent
    rw [(run_of_present required first).1] at h
    simp at h

/-- **Reconciliation gives what is said here of a document, and nothing else is that.** -/
theorem run_eq_iff (modelName : String) (required : List String) (text : List Char) (r : Report) :
    run modelName required text = r ↔
      IsReconciled (Naming.pascal modelName).toList required text r := by
  constructor
  · rintro rfl
    by_cases habsent : ∀ l ∈ lines text, ¬ Heading.IsHeading (Naming.pascal modelName).toList l.body
    · rw [run_of_absent habsent]
      exact .absent (isCutOf_lines text) habsent
    · obtain ⟨a, first⟩ := exists_isFirstHeading habsent
      obtain ⟨hfound, hclosed⟩ := run_of_present required first
      obtain ⟨hending, hbody⟩ := (eq_scan_iff first _).1 (lines_text_run modelName required text)
      have hreport : run modelName required text =
          ⟨(run modelName required text).text, true,
            differing (lines text) (lines (run modelName required text).text),
            (run modelName required text).unterminated⟩ := by
        rw [← hfound, lines_text_run, ← changedLines_run]
      rw [hreport]
      exact .present (isCutOf_lines text) (isCutOf_lines _) first hending hbody hclosed
  · rintro (@⟨list, cut, habsent⟩ | @⟨list, settled, after, a, unterminated, cut, cutAfter, first,
      hending, hbody, hclosed⟩)
    · obtain rfl := lines_eq_iff.2 cut
      exact run_of_absent habsent
    · obtain rfl := lines_eq_iff.2 cut
      obtain ⟨hfound, hclosed'⟩ := run_of_present required first
      have hsettled : settled = (scan modelName required text).1 :=
        (eq_scan_iff first settled).2 ⟨hending, hbody⟩
      have htext : (run modelName required text).text = after := by
        rw [text_run, ← hsettled, cutAfter.unlines_eq]
      have hunterminated : (run modelName required text).unterminated = unterminated :=
        Bool.eq_iff_iff.2 (hclosed'.trans hclosed.symm)
      rw [hsettled, ← changedLines_run, ← htext, ← hunterminated, ← hfound]

/-- One mark is removed and another one is set; the declaration that is right already is not counted. -/
example : run "post" ["title"]
      "interface Post \x7b\r\n  title?: string;\n  body: string;\n  tag?: Tag;\n\x7d\n".toList =
    ⟨"interface Post \x7b\r\n  title: string;\n  body?: string;\n  tag?: Tag;\n\x7d\n".toList,
      true, 2, false⟩ := by
  cbv

end InterfaceSync.Reconcile
