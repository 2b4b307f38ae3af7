import InterfaceSync.Proofs.Reconcile.Specification
import InterfaceSync.Schema.Required

/-!
# Reconciling a document with several models

A document is reconciled with models one after the other, each time on the text that was left.  A
reconciliation changes question marks and nothing else, and none of the others sees these.  So every
model settles the lines that it settles in the text from the beginning, and what becomes of a line is
decided by the models that settle it (`getElem?_lines_runAll`).

The target of a model goes from the first heading of its interface to the line that closes the block.
If the targets of the models share no line, then no line is settled by two of them, and the order of the
models makes no difference, nor how often each of them occurs.

* `getElem?_lines_run_of_not_inTarget`: a line outside the target stays as it is.
* `declaresAt_of_map_bare`: which lines are settled does not depend on the question marks.
* `getElem?_lines_runAll`: a line once the document was reconciled with all models.
* `runAll_congr`: the order and the number of times make no difference.
-/

namespace InterfaceSync.Reconcile

open Text

/-- A text once it was reconciled with models, one after the other. -/
def runAll (models : List Model) (text : List Char) : List Char :=
  models.foldl (fun text m => (run m.name m.required text).text) text

/-! ## The lines that a model settles -/

/-- Whether line `i` lies in the target of an interface: from its first heading on, and not behind a line
that closes the block. -/
def InTarget (interfaceName : List Char) (list : List Line) (i : ℕ) : Prop :=
  ∃ a, IsFirstHeading interfaceName list a ∧ a ≤ i ∧ i < list.length ∧ ∀ e < i, ¬ Closes list a e

/-- There is one first heading at most. -/
theorem IsFirstHeading.eq {interfaceName : List Char} {list : List Line} {a b : ℕ}
    (first : IsFirstHeading interfaceName list a) (hb : IsFirstHeading interfaceName list b) : b = a := by
  rcases Nat.lt_trichotomy b a with h | h | h
  · obtain ⟨l, hl, hheading⟩ := hb.1
    exact absurd hheading (first.2 b h l hl)
  · exact h
  · obtain ⟨l, hl, hheading⟩ := first.1
    exact absurd hheading (hb.2 a h l hl)

/-- The target of a block that is closed goes from its heading to the first line that closes it. -/
theorem inTarget_iff_of_closes {interfaceName : List Char} {list : List Line} {a e : ℕ}
    (first : IsFirstHeading interfaceName list a) (hclose : Closes list a e)
    (hopen : ∀ j < e, ¬ Closes list a j) (i : ℕ) :
    InTarget interfaceName list i ↔ a ≤ i ∧ i ≤ e := by
  constructor
  · rintro ⟨b, hb, hle, -, hnot⟩
    obtain rfl := first.eq hb
    refine ⟨hle, ?_⟩
    by_contra hlt
    exact hnot e (by omega) hclose
  · rintro ⟨hai, hie⟩
    have hlength := hclose.2.1
    exact ⟨a, first, hai, by omega, fun j hj => hopen j (by omega)⟩

/-- Whether line `i` is read as a declaration when the document is reconciled. -/
def declaresAt (interfaceName : List Char) (list : List Line) (i : ℕ) : Bool :=
  (phaseAt interfaceName list i).declaresBetween (phaseAt interfaceName list (i + 1))

theorem phaseAt_of_absent {interfaceName : List Char} {list : List Line}
    (h : ∀ l ∈ list, ¬ Heading.IsHeading interfaceName l.body) (i : ℕ) :
    phaseAt interfaceName list i = .searching := by
  have htake : ∀ l ∈ list.take i, ¬ Heading.IsHeading interfaceName l.body :=
    fun l hl => h l (List.mem_of_mem_take hl)
  have hscan := settleLines_of_forall_not_isHeading [] htake
  rw [phaseAt, ← snd_settleLines interfaceName [], hscan]

/-- What is read as a declaration lies in the target. -/
theorem inTarget_of_declaresAt {interfaceName : List Char} {list : List Line} {i : ℕ}
    (hi : i < list.length) (h : declaresAt interfaceName list i = true) :
    InTarget interfaceName list i := by
  by_cases habsent : ∀ l ∈ list, ¬ Heading.IsHeading interfaceName l.body
  · rw [declaresAt, phaseAt_of_absent habsent, phaseAt_of_absent habsent] at h
    simp [Phase.declaresBetween] at h
  · obtain ⟨a, first⟩ := exists_isFirstHeading habsent
    obtain ⟨hai, hopen, -⟩ := (declaresBetween_iff first hi).1 h
    refine ⟨a, first, hai.le, hi, fun e he hclose => ?_⟩
    exact absurd (hopen e hclose) (by omega)

/-- A line outside the target stays as it is. -/
theorem getElem?_lines_run_of_not_inTarget (modelName : String) (required : List String)
    {text : List Char} {i : ℕ} (hi : ¬ InTarget (Naming.pascal modelName).toList (lines text) i) :
    (lines (run modelName required text).text)[i]? = (lines text)[i]? := by
  rw [lines_text_run]
  cases hl : (lines text)[i]? with
  | none =>
    rw [List.getElem?_eq_none_iff] at hl ⊢
    rwa [scan, length_settleLines]
  | some l =>
    have hnot : ¬ declaresAt (Naming.pascal modelName).toList (lines text) i := fun hdeclares =>
      hi (inTarget_of_declaresAt (List.getElem?_eq_some_iff.1 hl).1 hdeclares)
    rw [getElem?_scan hl, settledBody, ← declaresAt, if_neg hnot]

/-- The phase in front of a line does not depend on the question marks. -/
theorem phaseAt_of_map_bare {list other : List Line} (h : other.map Line.bare = list.map Line.bare)
    (interfaceName : List Char) (i : ℕ) :
    phaseAt interfaceName other i = phaseAt interfaceName list i := by
  have hbare : ∀ lines : List Line, phaseAt interfaceName lines i =
      ((lines.map Line.bare).take i).foldl (fun p l => p.next interfaceName l.body) .searching := by
    intro lines
    rw [← List.map_take, List.foldl_map, phaseAt]
    simp only [Line.bare, next_bare]
  rw [hbare, hbare, h]

/-- **Which lines are read as declarations does not depend on the question marks.** -/
theorem declaresAt_of_map_bare {list other : List Line} (h : other.map Line.bare = list.map Line.bare)
    (interfaceName : List Char) (i : ℕ) :
    declaresAt interfaceName other i = declaresAt interfaceName list i := by
  rw [declaresAt, declaresAt, phaseAt_of_map_bare h, phaseAt_of_map_bare h]

/-! ## A line that several models settle -/

/-- What becomes of the body of line `i`: the models that read it as a declaration settle it, one after
the other. -/
def settledAt (models : List Model) (list : List Line) (i : ℕ) (body : List Char) : List Char :=
  models.foldl (fun body m =>
    if declaresAt m.interfaceName.toList list i then FieldLine.settle m.required body else body) body

theorem settledAt_cons (m : Model) (rest : List Model) (list : List Line) (i : ℕ) (body : List Char) :
    settledAt (m :: rest) list i body = settledAt rest list i
      (if declaresAt m.interfaceName.toList list i then FieldLine.settle m.required body else body) :=
  rfl

theorem settledAt_of_map_bare {list other : List Line} (h : other.map Line.bare = list.map Line.bare)
    (models : List Model) (i : ℕ) (body : List Char) :
    settledAt models other i body = settledAt models list i body := by
  simp only [settledAt, declaresAt_of_map_bare h]

/-- **A line once the document was reconciled with all models** is settled by those that read it as a
declaration in the text from the beginning. -/
theorem getElem?_lines_runAll (models : List Model) (text : List Char) (i : ℕ) :
    (lines (runAll models text))[i]? =
      (lines text)[i]?.map fun l => ⟨settledAt models (lines text) i l.body, l.ending⟩ := by
  induction models generalizing text with
  | nil =>
    show (lines text)[i]? = (lines text)[i]?.map id
    rw [Option.map_id_fun, id]
  | cons m rest ih =>
    have hbare := map_bare_lines_text_run m.name m.required text
    have hstep : runAll (m :: rest) text = runAll rest (run m.name m.required text).text := rfl
    rw [hstep, ih]
    simp only [settledAt_of_map_bare hbare]
    rw [lines_text_run]
    cases hl : (lines text)[i]? with
    | none =>
      have hlength : (scan m.name m.required text).1.length = (lines text).length :=
        length_settleLines _ _ _ _
      rw [List.getElem?_eq_none_iff] at hl
      rw [List.getElem?_eq_none (by omega)]
      rfl
    | some l =>
      rw [getElem?_scan hl]
      rfl

/-- A line that no model reads as a declaration stays as it is. -/
theorem settledAt_of_forall_not {models : List Model} {list : List Line} {i : ℕ}
    (h : ∀ m ∈ models, ¬ declaresAt m.interfaceName.toList list i) (body : List Char) :
    settledAt models list i body = body := by
  induction models with
  | nil => rfl
  | cons m rest ih =>
    obtain ⟨hm, hrest⟩ := List.forall_mem_cons.1 h
    rw [settledAt_cons, if_neg hm, ih hrest]

/-- A line that one model reads as a declaration and no other one is settled by that one. -/
theorem settledAt_of_mem {models : List Model} {list : List Line} {i : ℕ} {m : Model}
    (hmem : m ∈ models) (hm : declaresAt m.interfaceName.toList list i)
    (only : ∀ other ∈ models, declaresAt other.interfaceName.toList list i → other = m)
    (body : List Char) : settledAt models list i body = FieldLine.settle m.required body := by
  induction models generalizing body with
  | nil => simp at hmem
  | cons first rest ih =>
    obtain ⟨hfirst, hrest⟩ := List.forall_mem_cons.1 only
    rw [settledAt_cons]
    by_cases hagain : m ∈ rest
    · rw [ih hagain hrest]
      split
      · rename_i hdeclares
        rw [hfirst hdeclares, FieldLine.settle_settle]
      · rfl
    · -- The model stands in front, and none of the others reads the line.
      have heq : first = m := ((List.mem_cons.1 hmem).resolve_right hagain).symm
      have hnone : ∀ other ∈ rest, ¬ declaresAt other.interfaceName.toList list i := by
        intro other hother hdeclares
        rw [hrest other hother hdeclares] at hother
        exact hagain hother
      rw [heq, if_pos hm, settledAt_of_forall_not hnone]

/-! ## Order and repetition -/

/-- Models whose targets share no line. -/
def AreApart (models : List Model) (text : List Char) : Prop :=
  ∀ m ∈ models, ∀ other ∈ models, m ≠ other → ∀ i,
    InTarget m.interfaceName.toList (lines text) i →
      ¬ InTarget other.interfaceName.toList (lines text) i

/-- A line in the targets of models that are apart belongs to one of them. -/
theorem AreApart.eq {models : List Model} {text : List Char} (apart : AreApart models text)
    {m other : Model} (hm : m ∈ models) (hother : other ∈ models) {i : ℕ} (hi : i < (lines text).length)
    (hdeclares : declaresAt m.interfaceName.toList (lines text) i)
    (hdeclares' : declaresAt other.interfaceName.toList (lines text) i) : other = m := by
  by_contra hne
  exact apart m hm other hother (Ne.symm hne) i (inTarget_of_declaresAt hi hdeclares)
    (inTarget_of_declaresAt hi hdeclares')

theorem settledAt_congr {models others : List Model} {text : List Char}
    (same : ∀ m, m ∈ models ↔ m ∈ others) (apart : AreApart models text) {i : ℕ}
    (hi : i < (lines text).length) (body : List Char) :
    settledAt models (lines text) i body = settledAt others (lines text) i body := by
  by_cases hexists : ∃ m ∈ models, declaresAt m.interfaceName.toList (lines text) i
  · obtain ⟨m, hm, hdeclares⟩ := hexists
    have only : ∀ other ∈ models, declaresAt other.interfaceName.toList (lines text) i → other = m :=
      fun other hother => apart.eq hm hother hi hdeclares
    rw [settledAt_of_mem hm hdeclares only, settledAt_of_mem ((same m).1 hm) hdeclares
      fun other hother => only other ((same other).2 hother)]
  · push Not at hexists
    rw [settledAt_of_forall_not hexists,
      settledAt_of_forall_not fun other hother => hexists other ((same other).2 hother)]

/-- **If the targets of models share no line, the order of the models makes no difference, nor how often
each of them occurs.** -/
theorem runAll_congr {models others : List Model} {text : List Char}
    (same : ∀ m, m ∈ models ↔ m ∈ others) (apart : AreApart models text) :
    runAll models text = runAll others text := by
  have hlines : lines (runAll models text) = lines (runAll others text) := by
    apply List.ext_getElem?
    intro i
    rw [getElem?_lines_runAll, getElem?_lines_runAll]
    cases hl : (lines text)[i]? with
    | none => rfl
    | some l =>
      rw [Option.map_some, Option.map_some,
        settledAt_congr same apart (List.getElem?_eq_some_iff.1 hl).1]
  rw [← unlines_lines (runAll models text), hlines, unlines_lines]

end InterfaceSync.Reconcile
