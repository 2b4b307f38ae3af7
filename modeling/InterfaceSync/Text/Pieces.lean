/-!
# Pieces between separators

A list is cut at every item that separates, and the separators are dropped.  A list without separators
is one piece, so there is always at least one, and the pieces with a separator between each two of them
are the list again (`intercalate_pieces`).
-/

namespace InterfaceSync.Text

variable {α : Type}

/-- The pieces of a list between the items that separate. -/
def pieces (separates : α → Bool) : List α → List (List α)
  | [] => [[]]
  | a :: rest =>
    match separates a, pieces separates rest with
    | true, found => [] :: found
    | false, piece :: found => (a :: piece) :: found
    | false, [] => [[a]]

@[simp] theorem pieces_nil (separates : α → Bool) : pieces separates [] = [[]] := rfl

theorem pieces_cons_of_separates {separates : α → Bool} {a : α} (h : separates a = true)
    (rest : List α) : pieces separates (a :: rest) = [] :: pieces separates rest := by
  simp only [pieces, h]

theorem pieces_ne_nil (separates : α → Bool) (list : List α) : pieces separates list ≠ [] := by
  cases list with
  | nil => simp
  | cons a rest =>
    simp only [pieces]
    split <;> simp

/-- The pieces at a single separator, with it between each two of them, are the list. -/
theorem intercalate_pieces [BEq α] [LawfulBEq α] (separator : α) (list : List α) :
    List.intercalate [separator] (pieces (· == separator) list) = list := by
  induction list with
  | nil => rfl
  | cons a rest ih =>
    obtain ⟨piece, found, h⟩ := List.exists_cons_of_ne_nil (pieces_ne_nil (· == separator) rest)
    have hcons : ∀ p : List α,
        List.intercalate [separator] ((a :: p) :: found)
          = a :: List.intercalate [separator] (p :: found) := by
      intro p
      cases found <;> simp [List.intercalate_cons_cons]
    cases ha : a == separator with
    | true =>
      obtain rfl := eq_of_beq ha
      have hpieces : pieces (· == a) (a :: rest) = [] :: pieces (· == a) rest :=
        @pieces_cons_of_separates α (· == a) a ha rest
      rw [hpieces, h, List.intercalate_cons_cons, ← h, ih]
      rfl
    | false =>
      simp only [pieces, ha, h]
      rw [hcons, ← h, ih]

end InterfaceSync.Text
