import InterfaceSync.Proofs.Spans
import InterfaceSync.Reconcile.Heading

/-!
# What a heading is

`Heading.opens` reads a line from left to right.  Here the line is laid out in its parts: a byte order
mark, white space, `export` and white space, `interface` and white space, the name, white space, and
then a brace, the word `extends` or nothing.  A line is a heading exactly when it can be laid out so
(`opens_eq_true_iff`).
-/

namespace InterfaceSync.Heading

open Text

/-! ## The parts of a heading -/

/-- White space that keeps two words apart. -/
def IsGap (text : List Char) : Prop := text ≠ [] ∧ IsSpace text

/-- A byte order mark or nothing. -/
def IsMark (text : List Char) : Prop := text = [] ∨ text = ['\uFEFF']

/-- The word `export` with the white space behind it, or nothing. -/
def IsExport (text : List Char) : Prop :=
  text = [] ∨ ∃ gap, IsGap gap ∧ text = "export".toList ++ gap

/-- What may stand behind the name and white space: nothing, or anything that begins with a brace or
with `extends`. -/
def IsTail (text : List Char) : Prop :=
  text = [] ∨ ['\x7b'] <+: text ∨ "extends".toList <+: text

/-- A line that is the heading of the interface with the given name. -/
def IsHeading (name body : List Char) : Prop :=
  ∃ mark indent exported gap space tail,
    body = mark ++ (indent ++ (exported ++ ("interface".toList ++ (gap ++ (name ++ (space ++ tail))))))
      ∧ IsMark mark ∧ IsSpace indent ∧ IsExport exported ∧ IsGap gap ∧ IsSpace space ∧ IsTail tail

/-! ## Reading the parts -/

theorem startsOutside_of_isTail {text : List Char} (h : IsTail text) :
    StartsOutside isBlank text := by
  rcases h with rfl | ⟨rest, rfl⟩ | ⟨rest, rfl⟩
  · exact startsOutside_nil _
  · exact startsOutside_cons.2 (by decide)
  · exact startsOutside_cons.2 (by decide)

theorem endsHere_eq_isTail (text : List Char) : endsHere text = true ↔ IsTail (trimStart text) := by
  unfold endsHere IsTail
  split
  · rename_i h
    simp [h]
  · rename_i c rest h
    rw [h, Bool.or_eq_true, beq_iff_eq, List.isPrefixOf_iff_prefix]
    simp [List.cons_prefix_cons, eq_comm]

/-- The end of a heading, laid out. -/
theorem endsHere_eq_true_iff {text : List Char} :
    endsHere text = true ↔ ∃ space tail, text = space ++ tail ∧ IsSpace space ∧ IsTail tail := by
  rw [endsHere_eq_isTail]
  constructor
  · intro h
    obtain ⟨space, hspace, heq⟩ := exists_eq_space_append text
    exact ⟨space, trimStart text, heq, hspace, h⟩
  · rintro ⟨space, tail, rfl, hspace, htail⟩
    rwa [trimStart_append hspace (startsOutside_of_isTail htail)]

/-- White space and the name, laid out.  The name may begin with white space of its own, so it is tried
behind every character of the gap. -/
theorem namesInterface_eq_true_iff {name text : List Char} :
    namesInterface name text = true ↔
      ∃ gap rest, text = gap ++ (name ++ rest) ∧ IsGap gap ∧ endsHere rest = true := by
  induction text with
  | nil =>
    simp only [namesInterface, Bool.false_eq_true, false_iff]
    rintro ⟨gap, rest, h, ⟨hne, -⟩, -⟩
    exact hne (List.append_eq_nil_iff.1 h.symm).1
  | cons c text ih =>
    rw [namesInterface, Bool.and_eq_true, Bool.or_eq_true, ih, Option.any_eq_true]
    constructor
    · rintro ⟨hc, ⟨rest, hrest, hend⟩ | ⟨gap, rest, rfl, ⟨hne, hgap⟩, hend⟩⟩
      · refine ⟨[c], rest, ?_, ⟨List.cons_ne_nil _ _, ?_⟩, hend⟩
        · rw [isPrefixOf?_eq_some_iff.1 hrest, List.singleton_append]
        · exact List.forall_mem_singleton.2 hc
      · exact ⟨c :: gap, rest, rfl, ⟨List.cons_ne_nil _ _, List.forall_mem_cons.2 ⟨hc, hgap⟩⟩, hend⟩
    · rintro ⟨gap, rest, h, ⟨hne, hgap⟩, hend⟩
      cases gap with
      | nil => exact absurd rfl hne
      | cons d gap =>
        rw [List.cons_append] at h
        obtain ⟨rfl, rfl⟩ := List.cons.inj h
        obtain ⟨hc, hgap⟩ := List.forall_mem_cons.1 hgap
        refine ⟨hc, ?_⟩
        cases gap with
        | nil => exact .inl ⟨rest, isPrefixOf?_append name rest, hend⟩
        | cons e gap => exact .inr ⟨e :: gap, rest, rfl, ⟨List.cons_ne_nil _ _, hgap⟩, hend⟩

/-- The keyword, behind `export` or not, laid out. -/
theorem skipExport_eq_iff {text rest : List Char} :
    skipExport text = "interface".toList ++ rest ↔
      ∃ exported, IsExport exported ∧ text = exported ++ ("interface".toList ++ rest) := by
  constructor
  · intro h
    have plain : text = "interface".toList ++ rest →
        ∃ exported, IsExport exported ∧ text = exported ++ ("interface".toList ++ rest) :=
      fun heq => ⟨[], .inl rfl, heq⟩
    unfold skipExport at h
    split at h
    · rename_i c more hmore
      split at h
      · rename_i hc
        obtain ⟨space, hspace, heq⟩ := exists_eq_space_append more
        refine ⟨"export".toList ++ c :: space, .inr ⟨c :: space, ⟨List.cons_ne_nil _ _, ?_⟩, rfl⟩, ?_⟩
        · exact List.forall_mem_cons.2 ⟨hc, hspace⟩
        · rw [isPrefixOf?_eq_some_iff.1 hmore, ← h, List.append_assoc, List.cons_append, ← heq]
      · exact plain h
    · exact plain h
  · rintro ⟨exported, rfl | ⟨gap, ⟨hne, hgap⟩, rfl⟩, rfl⟩
    · rfl
    · cases gap with
      | nil => exact absurd rfl hne
      | cons c gap =>
        obtain ⟨hc, hgap⟩ := List.forall_mem_cons.1 hgap
        unfold skipExport
        rw [List.append_assoc, isPrefixOf?_append, List.cons_append]
        simp only [hc, if_true]
        exact trimStart_append hgap (startsOutside_cons.2 (by decide))

theorem startsOutside_export_interface {exported rest : List Char} (h : IsExport exported) :
    StartsOutside isBlank (exported ++ ("interface".toList ++ rest)) := by
  rcases h with rfl | ⟨gap, -, rfl⟩
  · exact startsOutside_cons.2 (by decide)
  · exact startsOutside_cons.2 (by decide)

/-- White space and the keyword, laid out. -/
theorem skipExport_trimStart_eq_iff {text rest : List Char} :
    skipExport (trimStart text) = "interface".toList ++ rest ↔
      ∃ indent exported, text = indent ++ (exported ++ ("interface".toList ++ rest)) ∧
        IsSpace indent ∧ IsExport exported := by
  rw [skipExport_eq_iff]
  constructor
  · rintro ⟨exported, hexported, h⟩
    obtain ⟨indent, hindent, heq⟩ := exists_eq_space_append text
    exact ⟨indent, exported, by rw [← h, ← heq], hindent, hexported⟩
  · rintro ⟨indent, exported, rfl, hindent, hexported⟩
    exact ⟨exported, hexported,
      trimStart_append hindent (startsOutside_export_interface hexported)⟩

theorem skipByteOrderMark_of_ne {text : List Char} (h : text.head? ≠ some '\uFEFF') :
    skipByteOrderMark text = text := by
  unfold skipByteOrderMark
  split
  · exact absurd rfl h
  · rfl

theorem exists_eq_mark_append (body : List Char) :
    ∃ mark, IsMark mark ∧ body = mark ++ skipByteOrderMark body := by
  unfold skipByteOrderMark
  split
  · rename_i rest
    exact ⟨['\uFEFF'], .inr rfl, rfl⟩
  · exact ⟨[], .inl rfl, rfl⟩

/-- A mark is passed over in front of what a heading goes on with, which begins with no mark. -/
theorem skipByteOrderMark_append {mark indent exported rest : List Char} (hmark : IsMark mark)
    (hindent : IsSpace indent) (hexported : IsExport exported) :
    skipByteOrderMark (mark ++ (indent ++ (exported ++ ("interface".toList ++ rest))))
      = indent ++ (exported ++ ("interface".toList ++ rest)) := by
  rcases hmark with rfl | rfl
  · refine skipByteOrderMark_of_ne fun h => ?_
    cases indent with
    | nil =>
      rcases hexported with rfl | ⟨gap, -, rfl⟩
      · exact absurd (Option.some.inj h) (by decide)
      · exact absurd (Option.some.inj h) (by decide)
    | cons c indent =>
      have hc : isBlank c = true := hindent c List.mem_cons_self
      rw [Option.some.inj h] at hc
      exact absurd hc (by decide)
  · rfl

/-- **A line is read as a heading exactly when it can be laid out as one.** -/
theorem opens_eq_true_iff {name body : List Char} :
    opens name body = true ↔ IsHeading name body := by
  rw [opens, Option.any_eq_true]
  constructor
  · rintro ⟨rest, hrest, hname⟩
    obtain ⟨gap, more, rfl, hgap, hend⟩ := namesInterface_eq_true_iff.1 hname
    obtain ⟨space, tail, rfl, hspace, htail⟩ := endsHere_eq_true_iff.1 hend
    obtain ⟨mark, hmark, hbody⟩ := exists_eq_mark_append body
    obtain ⟨indent, exported, heq, hindent, hexported⟩ :=
      skipExport_trimStart_eq_iff.1 (isPrefixOf?_eq_some_iff.1 hrest)
    exact ⟨mark, indent, exported, gap, space, tail, by rw [← heq, ← hbody], hmark, hindent,
      hexported, hgap, hspace, htail⟩
  · rintro ⟨mark, indent, exported, gap, space, tail, rfl, hmark, hindent, hexported, hgap, hspace,
      htail⟩
    refine ⟨gap ++ (name ++ (space ++ tail)), ?_, ?_⟩
    · rw [skipByteOrderMark_append hmark hindent hexported, isPrefixOf?_eq_some_iff,
        skipExport_trimStart_eq_iff]
      exact ⟨indent, exported, rfl, hindent, hexported⟩
    · exact namesInterface_eq_true_iff.2
        ⟨gap, space ++ tail, rfl, hgap, endsHere_eq_true_iff.2 ⟨space, tail, rfl, hspace, htail⟩⟩

theorem opens_eq_false_iff {name body : List Char} :
    opens name body = false ↔ ¬ IsHeading name body := by
  rw [← opens_eq_true_iff, Bool.not_eq_true]

end InterfaceSync.Heading
