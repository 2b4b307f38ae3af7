import InterfaceSync.Proofs.Spans
import InterfaceSync.Text.WordChar
import Mathlib.Tactic.SplitIfs

/-!
# White space does not stand inside a word

The white space beyond ASCII lies in eight spans of code points, and the tables of word characters keep
clear of them.  The tables are checked line by line.

* `CharRanges.contains_ofLines_eq_false`: a table that keeps clear of spans has no character in them.
* `isWordChar_eq_false_of_isBlank`: no character is both.
-/

namespace InterfaceSync.Text

/-! ## Tables and spans -/

/-- Whether the ranges on a line of a table keep clear of some spans. -/
def keepsClear (spans : List (Nat × Nat)) (line : List Char) : Bool :=
  (pieces (· == ' ') line).all fun entry =>
    spans.all fun s =>
      decide ((CharRanges.rangeOfText entry).2 < s.1) || decide (s.2 < (CharRanges.rangeOfText entry).1)

/-- A table that keeps clear of spans has no character in them. -/
theorem CharRanges.contains_ofLines_eq_false {spans : List (Nat × Nat)} {lines : List String}
    (clear : ∀ l ∈ lines, keepsClear spans l.toList = true) {c : Char}
    (hc : ∃ s ∈ spans, s.1 ≤ c.toNat ∧ c.toNat ≤ s.2) : (ofLines lines).contains c = false := by
  rw [Bool.eq_false_iff]
  intro hcontains
  obtain ⟨r, hr, hlow, hhigh⟩ := contains_eq_true_iff.1 hcontains
  obtain ⟨l, hl, hr⟩ := List.mem_flatMap.1 hr
  obtain ⟨entry, hentry, rfl⟩ := List.mem_map.1 hr
  obtain ⟨s, hs, hfirst, hlast⟩ := hc
  have hclear := List.all_eq_true.1 (List.all_eq_true.1 (clear l hl) entry hentry) s hs
  rw [Bool.or_eq_true, decide_eq_true_eq, decide_eq_true_eq] at hclear
  omega

/-- A line that is written out is checked on its characters. -/
theorem keepsClear_toList_ofList {spans : List (Nat × Nat)} {line : List Char}
    (h : keepsClear spans line = true) : keepsClear spans (String.ofList line).toList = true := by
  rwa [String.toList_ofList]

/-! ## White space -/

/-- The spans of the white space beyond ASCII. -/
def blankSpans : List (Nat × Nat) :=
  [(0x85, 0x85), (0xA0, 0xA0), (0x1680, 0x1680), (0x2000, 0x200A), (0x2028, 0x2029), (0x202F, 0x202F),
    (0x205F, 0x205F), (0x3000, 0x3000)]

theorem exists_mem_blankSpans {c : Char} (h : isBlank c = true) (hwide : ¬ c.toNat < 0x80) :
    ∃ s ∈ blankSpans, s.1 ≤ c.toNat ∧ c.toNat ≤ s.2 := by
  simp only [isBlank, Bool.or_eq_true, decide_eq_true_eq, beq_iff_eq] at h
  simp only [blankSpans, List.exists_mem_cons_iff, List.not_mem_nil, false_and, exists_false]
  omega

/-- **No white space may stand inside a word.** -/
theorem isWordChar_eq_false_of_isBlank {c : Char} (h : isBlank c = true) : isWordChar c = false := by
  by_cases hwide : c.toNat < 0x80
  · exact of_toNat_lt (P := fun c => isBlank c = true → isWordChar c = false) (by decide) hwide h
  have hspan := exists_mem_blankSpans h hwide
  have halphabetic : alphabetic.contains c = false := by
    refine CharRanges.contains_ofLines_eq_false ?_ hspan
    simp only [List.forall_mem_cons, List.not_mem_nil, false_imp_iff, implies_true, and_true]
    and_intros <;> exact keepsClear_toList_ofList (by decide +kernel)
  have hother : otherWordChars.contains c = false := by
    refine CharRanges.contains_ofLines_eq_false ?_ hspan
    simp only [List.forall_mem_cons, List.not_mem_nil, false_imp_iff, implies_true, and_true]
    and_intros <;> exact keepsClear_toList_ofList (by decide +kernel)
  rw [isWordChar, if_neg hwide, halphabetic, hother]
  rfl

end InterfaceSync.Text
