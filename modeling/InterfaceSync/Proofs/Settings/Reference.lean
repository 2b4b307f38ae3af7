import InterfaceSync.Settings.Reference
import InterfaceSync.Proofs.Replacing
import InterfaceSync.Proofs.Spans

/-!
# The references in a text

A reference ends at the first closing brace behind it, so at a place of a text at most one reference
begins, and it is the one that is read there.  This makes the way to cut a text into its references, from
left to right and without overlap, the only one.

* `IsWellFormed`, `atFront?_eq_some_iff`: how a reference is written, and that it is read so.
* `Piece`, `IsCut`, `isCut_iff`: the references in a text and the characters beside them.
-/

namespace InterfaceSync
namespace Reference

variable {r : Reference} {c : Char} {text rest : List Char}

/-! ## How a reference is written -/

/-- A name that is not empty and has no closing brace and no colon, and a value without closing brace. -/
structure IsWellFormed (r : Reference) : Prop where
  name_ne_nil : r.name ≠ []
  brace_notMem_name : '\x7d' ∉ r.name
  colon_notMem_name : ':' ∉ r.name
  brace_notMem_default : ∀ d ∈ r.default, '\x7d' ∉ d

/-- What is written between the braces. -/
def body (r : Reference) : List Char := r.name ++ r.default.elim [] fun d => [':', '-'] ++ d

theorem text_eq (r : Reference) : r.text = '$' :: '\x7b' :: r.body ++ ['\x7d'] := by
  simp [text, body]

theorem IsWellFormed.brace_notMem_body (h : r.IsWellFormed) : '\x7d' ∉ r.body := by
  have hname := h.brace_notMem_name
  have hdefault := h.brace_notMem_default
  cases hd : r.default with
  | none => simpa [body, hd] using hname
  | some d =>
    rw [hd] at hdefault
    simpa [body, hd, hname] using hdefault

theorem IsWellFormed.endsOnce_text (h : r.IsWellFormed) : Text.EndsOnce r.text := by
  refine ⟨'$' :: '\x7b' :: r.body, '\x7d', r.text_eq, ?_⟩
  have hbody := h.brace_notMem_body
  simpa using hbody

theorem isNameChar_iff {c : Char} : isNameChar c = true ↔ c ≠ '\x7d' ∧ c ≠ ':' := by
  simp [isNameChar]

theorem isDefaultChar_iff {c : Char} : isDefaultChar c = true ↔ c ≠ '\x7d' := by
  simp [isDefaultChar]

/-- A reference is read as far as its closing brace. -/
theorem read?_body_append (h : r.IsWellFormed) (rest : List Char) :
    read? (r.body ++ '\x7d' :: rest) = some r := by
  obtain ⟨name, default⟩ := r
  obtain ⟨hname, hbrace, hcolon, hdefault⟩ := h
  have hinside : ∀ c ∈ name, isNameChar c = true := fun c hc =>
    isNameChar_iff.2 ⟨ne_of_mem_of_not_mem hc hbrace, ne_of_mem_of_not_mem hc hcolon⟩
  have hne : name.isEmpty = false := List.isEmpty_eq_false_iff.2 hname
  cases default with
  | none =>
    have hbody : body ⟨name, none⟩ ++ '\x7d' :: rest = name ++ '\x7d' :: rest := by simp [body]
    have houtside : Text.StartsOutside isNameChar ('\x7d' :: rest) :=
      Text.startsOutside_cons.2 rfl
    rw [hbody, read?]
    simp only [Text.takeWhile_append_of_boundary hinside houtside,
      Text.dropWhile_append_of_boundary hinside houtside, hne]
    rfl
  | some d =>
    have hbody : body ⟨name, some d⟩ ++ '\x7d' :: rest =
        name ++ ':' :: '-' :: (d ++ '\x7d' :: rest) := by
      simp [body]
    have houtside : Text.StartsOutside isNameChar (':' :: '-' :: (d ++ '\x7d' :: rest)) :=
      Text.startsOutside_cons.2 rfl
    have hvalue : ∀ c ∈ d, isDefaultChar c = true := fun c hc =>
      isDefaultChar_iff.2 (ne_of_mem_of_not_mem hc (hdefault d rfl))
    have hend : Text.StartsOutside isDefaultChar ('\x7d' :: rest) := Text.startsOutside_cons.2 rfl
    rw [hbody, read?]
    simp only [Text.takeWhile_append_of_boundary hinside houtside,
      Text.dropWhile_append_of_boundary hinside houtside, hne,
      Text.takeWhile_append_of_boundary hvalue hend, Text.dropWhile_append_of_boundary hvalue hend]
    rfl

theorem isWellFormed_of_read? (h : read? rest = some r) :
    r.IsWellFormed ∧ ∃ behind, rest = r.body ++ '\x7d' :: behind := by
  have hname : ∀ c ∈ rest.takeWhile isNameChar, c ≠ '\x7d' ∧ c ≠ ':' := fun c hc =>
    isNameChar_iff.1 (List.mem_takeWhile_imp hc)
  have hbrace : '\x7d' ∉ rest.takeWhile isNameChar := fun hc => (hname _ hc).1 rfl
  have hcolon : ':' ∉ rest.takeWhile isNameChar := fun hc => (hname _ hc).2 rfl
  have hrest := (List.takeWhile_append_dropWhile (p := isNameChar) (l := rest)).symm
  by_cases hne : rest.takeWhile isNameChar = []
  · simp [read?, hne] at h
  · simp only [read?, List.isEmpty_eq_false_iff.2 hne, Bool.false_eq_true, if_false] at h
    split at h
    · rename_i behind hdrop
      obtain rfl := Option.some.inj h
      refine ⟨⟨hne, hbrace, hcolon, by simp⟩, behind, ?_⟩
      rw [hdrop] at hrest
      simpa [body] using hrest
    · rename_i value hdrop
      split at h
      · rename_i behind hend
        obtain rfl := Option.some.inj h
        have hvalue := (List.takeWhile_append_dropWhile (p := isDefaultChar) (l := value)).symm
        have hdefault : '\x7d' ∉ value.takeWhile isDefaultChar := fun hc =>
          isDefaultChar_iff.1 (List.mem_takeWhile_imp hc) rfl
        refine ⟨⟨hne, hbrace, hcolon, by simpa using hdefault⟩, behind, ?_⟩
        rw [hdrop, hvalue, hend] at hrest
        simpa [body] using hrest
      · simp at h
    · simp at h

theorem read?_eq_some_iff : read? rest = some r ↔ r.IsWellFormed ∧ r.body ++ ['\x7d'] <+: rest := by
  constructor
  · intro h
    obtain ⟨hwell, behind, rfl⟩ := isWellFormed_of_read? h
    exact ⟨hwell, behind, by simp⟩
  · rintro ⟨hwell, behind, rfl⟩
    rw [List.append_assoc]
    exact read?_body_append hwell behind

/-- A reference is read at the front of a text exactly if it is written there. -/
theorem atFront?_eq_some_iff : atFront? text = some r ↔ r.IsWellFormed ∧ r.text <+: text := by
  rw [text_eq]
  unfold atFront?
  split
  · rw [read?_eq_some_iff, List.cons_append, List.cons_append, List.cons_prefix_cons,
      List.cons_prefix_cons]
    simp
  · rename_i hne
    simp only [reduceCtorEq, false_iff, not_and]
    rintro - ⟨rest, rfl⟩
    exact hne _ rfl

theorem atFront?_eq_none_iff : atFront? text = none ↔ ∀ r, IsWellFormed r → ¬ r.text <+: text := by
  simp only [Option.eq_none_iff_forall_ne_some, ne_eq, atFront?_eq_some_iff, not_and]

/-! ## The references in a text -/

/-- A reference in a text, or a character beside the references. -/
inductive Piece where
  | char (c : Char)
  | reference (r : Reference)
  deriving DecidableEq, Repr

/-- The references among the pieces. -/
def references (cut : List Piece) : List Reference :=
  cut.filterMap fun
    | .char _ => none
    | .reference r => some r

@[simp] theorem references_nil : references [] = [] := rfl

@[simp] theorem references_char (c : Char) (cut : List Piece) :
    references (.char c :: cut) = references cut := rfl

@[simp] theorem references_reference (r : Reference) (cut : List Piece) :
    references (.reference r :: cut) = r :: references cut := rfl

variable {cut : List Piece}

theorem mem_references : r ∈ references cut ↔ .reference r ∈ cut := by
  induction cut with
  | nil => simp
  | cons p cut ih => cases p <;> simp [ih]

/-- The text is cut into its leftmost references, which do not overlap, and the characters beside them:
a character stands beside them only if no reference begins at it. -/
inductive IsCut : List Char → List Piece → Prop where
  | nil : IsCut [] []
  | reference {r : Reference} {rest : List Char} {cut : List Piece} (wellFormed : r.IsWellFormed)
      (isCut : IsCut rest cut) : IsCut (r.text ++ rest) (.reference r :: cut)
  | char {c : Char} {rest : List Char} {cut : List Piece}
      (beside : ∀ r : Reference, r.IsWellFormed → ¬ r.text <+: c :: rest)
      (isCut : IsCut rest cut) : IsCut (c :: rest) (.char c :: cut)

/-- The pieces of a text. -/
def pieces : List Char → List Piece
  | [] => []
  | c :: rest =>
    match atFront? (c :: rest) with
    | some r => .reference r :: pieces (rest.drop (r.text.length - 1))
    | none => .char c :: pieces rest
  termination_by text => text.length
  decreasing_by
    · simp only [List.length_drop, List.length_cons]
      omega
    · simp

theorem atFront?_text_append (h : r.IsWellFormed) (rest : List Char) :
    atFront? (r.text ++ rest) = some r :=
  atFront?_eq_some_iff.2 ⟨h, List.prefix_append r.text rest⟩

theorem pieces_text_append (h : r.IsWellFormed) (rest : List Char) :
    pieces (r.text ++ rest) = .reference r :: pieces rest := by
  have hfront := atFront?_text_append h rest
  rw [text_eq, List.cons_append, List.cons_append] at hfront ⊢
  rw [pieces, hfront]
  simp [text_eq]

theorem all_text_append (h : r.IsWellFormed) (rest : List Char) :
    all (r.text ++ rest) = r :: all rest := by
  have hfront := atFront?_text_append h rest
  rw [text_eq, List.cons_append, List.cons_append] at hfront ⊢
  rw [all, hfront]
  simp [text_eq]

theorem pieces_cons (beside : ∀ r : Reference, r.IsWellFormed → ¬ r.text <+: c :: rest) :
    pieces (c :: rest) = .char c :: pieces rest := by
  rw [pieces, atFront?_eq_none_iff.2 beside]

theorem all_cons (beside : ∀ r : Reference, r.IsWellFormed → ¬ r.text <+: c :: rest) :
    all (c :: rest) = all rest := by
  rw [all, atFront?_eq_none_iff.2 beside]

theorem isCut_pieces (text : List Char) : IsCut text (pieces text) := by
  induction text using pieces.induct with
  | case1 =>
    rw [pieces]
    exact .nil
  | case2 c rest r hfront ih =>
    obtain ⟨hwell, behind, hbehind⟩ := atFront?_eq_some_iff.1 hfront
    have hdrop : rest.drop (r.text.length - 1) = behind := by
      rw [text_eq, List.cons_append, List.cons_append, List.cons.injEq] at hbehind
      rw [← hbehind.2]
      simp [text_eq]
    rw [hdrop] at ih
    rw [← hbehind, pieces_text_append hwell]
    exact .reference hwell ih
  | case3 c rest hfront ih =>
    have hbeside := atFront?_eq_none_iff.1 hfront
    rw [pieces_cons hbeside]
    exact .char hbeside ih

/-- **There is one way to cut a text.** -/
theorem isCut_iff : IsCut text cut ↔ cut = pieces text := by
  constructor
  · intro h
    induction h with
    | nil => rw [pieces]
    | reference wellFormed _ ih => rw [pieces_text_append wellFormed, ih]
    | char beside _ ih => rw [pieces_cons beside, ih]
  · rintro rfl
    exact isCut_pieces text

/-- The references that are found in a text are those of its pieces. -/
theorem IsCut.all_eq (h : IsCut text cut) : all text = references cut := by
  induction h with
  | nil => rw [all, references_nil]
  | reference wellFormed _ ih => rw [all_text_append wellFormed, references_reference, ih]
  | char beside _ ih => rw [all_cons beside, references_char, ih]

theorem IsCut.isWellFormed (h : IsCut text cut) (hr : .reference r ∈ cut) : r.IsWellFormed := by
  induction h with
  | nil => simp at hr
  | reference wellFormed _ ih =>
    rw [List.mem_cons, Piece.reference.injEq] at hr
    rcases hr with rfl | hr
    · exact wellFormed
    · exact ih hr
  | char beside _ ih => exact ih (by simpa using hr)

end Reference
end InterfaceSync
