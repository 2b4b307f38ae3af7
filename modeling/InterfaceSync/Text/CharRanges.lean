import InterfaceSync.Text.HexDigit
import InterfaceSync.Text.Pieces

/-!
# Sets of characters given by ranges of code points

A property of the Unicode standard is a few hundred closed ranges of code points.  Here such a set
is written the way the standard's own data files write it, in hexadecimal: `"AA B5 C0-D6"` is the
two characters U+00AA and U+00B5 and the range from U+00C0 to U+00D6.  Membership is a plain scan;
the predicates built on these sets settle the ASCII characters themselves and come here only for
the others.
-/

namespace InterfaceSync.Text

/-- A set of characters: the union of closed ranges of code points. -/
structure CharRanges where
  ranges : List (Nat × Nat)

namespace CharRanges

/-- The range that one entry of a table writes: a single code point, or two with a dash. -/
def rangeOfText (entry : List Char) : Nat × Nat :=
  match (pieces (· == '-') entry).map hexNumber with
  | [only] => (only, only)
  | first :: last :: _ => (first, last)
  | [] => (0, 0)

/-- Reads the lines of a table, on which ranges are separated by single blanks. -/
def ofLines (lines : List String) : CharRanges :=
  ⟨lines.flatMap fun l => (pieces (· == ' ') l.toList).map rangeOfText⟩

/-- Whether a character lies in one of the ranges. -/
def contains (s : CharRanges) (c : Char) : Bool :=
  s.ranges.any fun r => decide (r.1 ≤ c.toNat) && decide (c.toNat ≤ r.2)

theorem contains_eq_true_iff {s : CharRanges} {c : Char} :
    s.contains c = true ↔ ∃ r ∈ s.ranges, r.1 ≤ c.toNat ∧ c.toNat ≤ r.2 := by
  simp [contains, List.any_eq_true]

end CharRanges
end InterfaceSync.Text
