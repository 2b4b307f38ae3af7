import InterfaceSync.Text.Blank
import Mathlib.Data.List.Basic
import Mathlib.Data.List.TakeWhile

/-!
# Spans at the front of a text

The readers of this library take off the front of a text the characters of a class, as many as there
are, or a fixed word.  Both are undone here: what was taken and what is left make up the text, and
nothing else does.

* `takeWhile_append_of_boundary`, `dropWhile_append_of_boundary`: a span is what stands in front of
  the first character outside the class.
* `isPrefixOf?_eq_some_iff`: what is left behind a fixed word.
* `trimStart_append`: white space in front of a text that does not begin with it.

At the end, `of_toNat_lt` checks a class on the characters of ASCII one by one.
-/

namespace InterfaceSync.Text

variable {α : Type}

/-! ## Characters of a class -/

/-- A text that does not begin with a character of the class. -/
def StartsOutside (p : α → Bool) (text : List α) : Prop := ∀ a ∈ text.head?, p a = false

theorem startsOutside_nil (p : α → Bool) : StartsOutside p [] := by
  intro a ha
  simp at ha

theorem startsOutside_cons {p : α → Bool} {a : α} {rest : List α} :
    StartsOutside p (a :: rest) ↔ p a = false := by
  simp [StartsOutside]

theorem takeWhile_eq_nil_of_startsOutside {p : α → Bool} {text : List α} (h : StartsOutside p text) :
    text.takeWhile p = [] := by
  cases text with
  | nil => rfl
  | cons a rest => rw [List.takeWhile_cons, startsOutside_cons.1 h]; rfl

theorem dropWhile_eq_self_of_startsOutside {p : α → Bool} {text : List α}
    (h : StartsOutside p text) : text.dropWhile p = text := by
  cases text with
  | nil => rfl
  | cons a rest => rw [List.dropWhile_cons, startsOutside_cons.1 h]; rfl

theorem takeWhile_append_of_boundary {p : α → Bool} {front rest : List α}
    (inside : ∀ a ∈ front, p a = true) (boundary : StartsOutside p rest) :
    (front ++ rest).takeWhile p = front := by
  rw [List.takeWhile_append_of_pos inside, takeWhile_eq_nil_of_startsOutside boundary,
    List.append_nil]

theorem dropWhile_append_of_boundary {p : α → Bool} {front rest : List α}
    (inside : ∀ a ∈ front, p a = true) (boundary : StartsOutside p rest) :
    (front ++ rest).dropWhile p = rest := by
  rw [List.dropWhile_append_of_pos inside, dropWhile_eq_self_of_startsOutside boundary]

/-! ## A fixed word -/

/-- What is left of a text behind a word is what the word stands in front of. -/
theorem isPrefixOf?_eq_some_iff [BEq α] [LawfulBEq α] {word text rest : List α} :
    word.isPrefixOf? text = some rest ↔ text = word ++ rest := by
  induction word generalizing text with
  | nil => simp [List.isPrefixOf?]
  | cons a word ih =>
    cases text with
    | nil => simp [List.isPrefixOf?]
    | cons b text =>
      rw [List.isPrefixOf?, List.cons_append, List.cons.injEq, ← ih]
      by_cases hab : a = b
      · simp [hab]
      · simp [hab, Ne.symm hab]

/-- A text behind a word goes on or not, and is read as far as the word. -/
theorem isPrefixOf?_append [BEq α] [LawfulBEq α] (word rest : List α) :
    word.isPrefixOf? (word ++ rest) = some rest :=
  isPrefixOf?_eq_some_iff.2 rfl

/-! ## White space -/

/-- A text of nothing but white space. -/
def IsSpace (text : List Char) : Prop := ∀ c ∈ text, isBlank c = true

instance (text : List Char) : Decidable (IsSpace text) :=
  List.decidableBAll (fun c => isBlank c = true) text

theorem isSpace_nil : IsSpace [] := by
  intro c hc
  simp at hc

theorem isSpace_takeWhile (text : List Char) : IsSpace (text.takeWhile isBlank) :=
  fun _ hc => List.mem_takeWhile_imp hc

theorem trimStart_append {space rest : List Char} (h : IsSpace space)
    (boundary : StartsOutside isBlank rest) : trimStart (space ++ rest) = rest :=
  dropWhile_append_of_boundary h boundary

/-- A text is white space and what is left once that is gone. -/
theorem exists_eq_space_append (text : List Char) :
    ∃ space, IsSpace space ∧ text = space ++ trimStart text :=
  ⟨text.takeWhile isBlank, isSpace_takeWhile text, (List.takeWhile_append_dropWhile).symm⟩

/-! ## Characters of ASCII -/

/-- What holds of every character of ASCII, checked one by one. -/
theorem of_toNat_lt {P : Char → Prop} (ascii : ∀ n < 128, P (Char.ofNat n)) {c : Char}
    (h : c.toNat < 128) : P c := by
  have hc := ascii c.toNat h
  rwa [Char.ofNat_toNat] at hc

theorem toNat_lt_of_isAlpha {c : Char} (h : c.isAlpha = true) : c.toNat < 128 := by
  rcases Bool.or_eq_true_iff.1 h with hupper | hlower
  · have hrange : 65 ≤ c.toNat ∧ c.toNat ≤ 90 := of_decide_eq_true hupper
    omega
  · have hrange : c.toNat ≤ 122 := of_decide_eq_true (Bool.and_eq_true_iff.1 hlower).2
    omega

theorem toNat_lt_of_isDigit {c : Char} (h : c.isDigit = true) : c.toNat < 128 := by
  have hrange : c.toNat ≤ 57 := of_decide_eq_true (Bool.and_eq_true_iff.1 h).2
  omega

end InterfaceSync.Text
