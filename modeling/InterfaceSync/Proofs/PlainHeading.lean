import InterfaceSync.Proofs.FieldLine
import InterfaceSync.Proofs.Heading
import InterfaceSync.Proofs.PlainName

/-!
# Headings of plain names

Which of the lines that are generated are headings.  A generated heading is the heading of its own
interface, and of another one only if `extends` goes on from the name of that one.  No other generated
line is a heading: each has a first word that is neither `export` nor `interface`.

* `not_isHeading_of_word`: a line whose first word is neither of the two.
* `not_isHeading_of_isDeclared`: a line that declares a field.
* `eq_or_extends_of_isHeading`: two interfaces with a heading in common.
* `isHeading_braced`, `isHeading_braced_iff`: the heading of an interface whose brace stands on the same
  line.
-/

namespace InterfaceSync.Heading

open Text

/-! ## Lines that are no headings -/

/-- What follows the indentation of a heading is `export` or `interface`, and then white space. -/
theorem exists_keyword {exported gap : List Char} (hexported : IsExport exported)
    (hgap : IsGap gap) (rest : List Char) :
    ∃ keyword, (keyword = "export".toList ∨ keyword = "interface".toList) ∧
      ∃ b more, isBlank b = true ∧
        exported ++ ("interface".toList ++ (gap ++ rest)) = keyword ++ b :: more := by
  have split_gap : ∀ {gap : List Char}, IsGap gap → ∀ rest,
      ∃ b more, isBlank b = true ∧ gap ++ rest = b :: more := by
    rintro (_ | ⟨b, gap⟩) ⟨hne, hspace⟩ rest
    · exact absurd rfl hne
    · exact ⟨b, gap ++ rest, hspace b List.mem_cons_self, rfl⟩
  rcases hexported with rfl | ⟨gap', hgap', rfl⟩
  · obtain ⟨b, more, hb, heq⟩ := split_gap hgap rest
    exact ⟨_, .inr rfl, b, more, hb, by rw [List.nil_append, heq]⟩
  · obtain ⟨b, more, hb, heq⟩ := split_gap hgap' ("interface".toList ++ (gap ++ rest))
    exact ⟨_, .inl rfl, b, more, hb, by rw [List.append_assoc, heq]⟩

/-- **A line whose first word is neither `export` nor `interface` is no heading.**  That it is neither
shows in one character. -/
theorem not_isHeading_of_word {name indent word rest : List Char} {c : Char}
    (hindent : IsSpace indent) (hword : ∀ d ∈ word, isBlank d = false)
    (hmark : word.head? ≠ some '\uFEFF') (hc : c ∈ word) (hexport : c ∉ "export".toList)
    (hinterface : c ∉ "interface".toList) : ¬ IsHeading name (indent ++ (word ++ rest)) := by
  rintro ⟨mark, indent', exported, gap, space, tail, heq, hmark', hindent', hexported, hgap, -, -⟩
  obtain ⟨d, word', rfl⟩ := List.exists_cons_of_ne_nil (List.ne_nil_of_mem hc)
  have hskip : skipByteOrderMark (indent ++ (d :: word' ++ rest)) = indent ++ (d :: word' ++ rest) := by
    refine skipByteOrderMark_of_ne fun hhead => ?_
    cases indent with
    | nil => exact hmark hhead
    | cons e indent =>
      have he : isBlank e = true := hindent e List.mem_cons_self
      rw [Option.some.inj hhead] at he
      exact absurd he (by decide)
  have hstart : StartsOutside isBlank (d :: word' ++ rest) :=
    startsOutside_cons.2 (hword d List.mem_cons_self)
  have htrim : d :: word' ++ rest =
      exported ++ ("interface".toList ++ (gap ++ (name ++ (space ++ tail)))) := by
    have htrimmed := congrArg (fun text => trimStart (skipByteOrderMark text)) heq
    rw [hskip, trimStart_append hindent hstart, skipByteOrderMark_append hmark' hindent' hexported,
      trimStart_append hindent' (startsOutside_export_interface hexported)] at htrimmed
    exact htrimmed
  obtain ⟨keyword, hkeyword, b, more, hb, hlayout⟩ := exists_keyword hexported hgap
    (name ++ (space ++ tail))
  -- The first word of the line is the keyword, and the character stands in it.
  have hmem : c ∈ keyword := by
    have hfirst : (d :: word' ++ rest).takeWhile (fun e => !isBlank e) = keyword := by
      rw [htrim, hlayout]
      have hkeyword' : keyword.all (fun e => !isBlank e) = true := by
        rcases hkeyword with rfl | rfl
        · decide
        · decide
      exact takeWhile_append_of_boundary (List.all_eq_true.1 hkeyword')
        (startsOutside_cons.2 (by rw [hb]; rfl))
    rw [← hfirst, List.takeWhile_append_of_pos (by simpa using hword)]
    exact List.mem_append_left _ hc
  rcases hkeyword with rfl | rfl
  · exact hexport hmem
  · exact hinterface hmem

/-- A character that a heading has in its name or behind the name, if at all. -/
structure IsForeign (c : Char) : Prop where
  isBlank_eq_false : isBlank c = false
  ne_mark : c ≠ '\uFEFF'
  notMem_export : c ∉ "export".toList
  notMem_interface : c ∉ "interface".toList

theorem isForeign_slash : IsForeign '/' := ⟨by decide, by decide, by decide, by decide⟩

theorem isForeign_opening : IsForeign '\x7b' := ⟨by decide, by decide, by decide, by decide⟩

theorem isForeign_closing : IsForeign '\x7d' := ⟨by decide, by decide, by decide, by decide⟩

/-- A line that begins with a foreign character is no heading. -/
theorem not_isHeading_cons {name rest : List Char} {c : Char} (h : IsForeign c) :
    ¬ IsHeading name (c :: rest) := by
  have hword : ∀ d ∈ [c], isBlank d = false := List.forall_mem_singleton.2 h.isBlank_eq_false
  have hnot : ¬ IsHeading name ([] ++ ([c] ++ rest)) :=
    not_isHeading_of_word isSpace_nil hword (fun hhead => h.ne_mark (Option.some.inj hhead))
      List.mem_cons_self h.notMem_export h.notMem_interface
  exact hnot

/-- A line that declares a field is no heading, even if the field is named like one of the two words:
there is a colon in its first word. -/
theorem not_isHeading_of_isDeclared {name : List Char} {l : FieldLine} (h : l.IsDeclared) :
    ¬ IsHeading name l.text := by
  obtain ⟨c, rest, hname, hc, -⟩ := h.exists_name_eq
  obtain ⟨after, hafter⟩ := h.exists_rest_eq
  have hlayout : l.text =
      l.indent ++ ((l.name ++ (if l.optional then ['?'] else []) ++ [':']) ++ after) := by
    simp [FieldLine.text, hafter]
  have hmark : (if l.optional then ['?'] else []).all (fun e => !isBlank e) = true := by
    cases l.optional with
    | true => decide
    | false => decide
  rw [hlayout]
  refine not_isHeading_of_word (c := ':') h.indent_isSpace ?_ ?_ (by simp) (by decide) (by decide)
  · rintro e he
    rcases List.mem_append.1 he with he | he
    · rcases List.mem_append.1 he with he | he
      · exact h.isBlank_eq_false he
      · simpa using List.all_eq_true.1 hmark e he
    · rw [List.mem_singleton.1 he]
      decide
  · rw [hname]
    rintro hhead
    rw [Option.some.inj hhead] at hc
    exact absurd hc (by decide)

/-! ## The first name behind the keyword -/

/-- A class of characters of which names may consist.  The letters of `extends` are among them, and what
ends a name is not. -/
structure IsNameClass (p : Char → Bool) : Prop where
  eq_false_of_isBlank : ∀ c, isBlank c = true → p c = false
  brace : p '\x7b' = false
  extends_eq_true : ∀ c ∈ "extends".toList, p c = true

/-- The first name in a text, which may be empty, if names consist of the characters of a class. -/
def firstSpan (p : Char → Bool) (text : List Char) : List Char := (trimStart text).takeWhile p

/-- The word `extends` does not begin where it ends, so it does not overlap with itself. -/
theorem eq_nil_or_extends_of_overlap {middle : List Char}
    (h : "extends".toList <+: middle ++ "extends".toList) :
    middle = [] ∨ "extends".toList <+: middle := by
  by_cases hlength : "extends".toList.length ≤ middle.length
  · exact .inr (List.prefix_of_prefix_length_le h (List.prefix_append _ _) hlength)
  · have hprefix : middle <+: "extends".toList :=
      List.prefix_of_prefix_length_le (List.prefix_append _ _) h (by omega)
    have hoverlap : ∀ n < "extends".toList.length,
        "extends".toList <+: "extends".toList.take n ++ "extends".toList → n = 0 := by decide
    rw [List.prefix_iff_eq_take.1 hprefix] at h
    exact .inl (List.length_eq_zero_iff.1 (hoverlap _ (by omega) h))

theorem eq_or_extends_of_overlap {name other : List Char}
    (h : name ++ "extends".toList <+: other ++ "extends".toList) :
    name = other ∨ name ++ "extends".toList <+: other := by
  have hlength : name.length ≤ other.length := by
    have hle := h.length_le
    rw [List.length_append, List.length_append] at hle
    omega
  obtain ⟨middle, rfl⟩ := List.prefix_of_prefix_length_le
    ((List.prefix_append name _).trans h) (List.prefix_append other _) hlength
  rw [List.append_assoc, List.prefix_append_right_inj] at h
  rcases eq_nil_or_extends_of_overlap h with rfl | hextends
  · exact .inl (List.append_nil name).symm
  · exact .inr ((List.prefix_append_right_inj name).2 hextends)

section Span

variable {p : Char → Bool} (hp : IsNameClass p)

include hp

theorem IsNameClass.isBlank_eq_false {c : Char} (h : p c = true) : isBlank c = false := by
  by_contra hblank
  rw [hp.eq_false_of_isBlank c (Bool.not_eq_false _ ▸ hblank)] at h
  exact Bool.false_ne_true h

/-- The first name behind the keyword of a heading is the name of the interface, or goes on from it with
`extends`. -/
theorem firstSpan_of_layout {gap name space tail : List Char} (hname : ∀ c ∈ name, p c = true)
    (hgap : IsSpace gap) (hspace : IsSpace space) (htail : IsTail tail) :
    firstSpan p (gap ++ (name ++ (space ++ tail))) = name ∨
      name ++ "extends".toList <+: firstSpan p (gap ++ (name ++ (space ++ tail))) := by
  have htailName : tail.takeWhile p = [] ∨ "extends".toList <+: tail.takeWhile p := by
    rcases htail with rfl | ⟨more, rfl⟩ | ⟨more, rfl⟩
    · exact .inl rfl
    · exact .inl (takeWhile_eq_nil_of_startsOutside (startsOutside_cons.2 hp.brace))
    · rw [List.takeWhile_append_of_pos hp.extends_eq_true]
      exact .inr (List.prefix_append _ _)
  unfold firstSpan
  cases name with
  | nil =>
    have hfront : IsSpace (gap ++ space) := List.forall_mem_append.2 ⟨hgap, hspace⟩
    rw [List.nil_append, List.nil_append, ← List.append_assoc,
      trimStart_append hfront (startsOutside_of_isTail htail)]
    exact htailName
  | cons c name =>
    have hstart : StartsOutside isBlank (c :: name ++ (space ++ tail)) :=
      startsOutside_cons.2 (hp.isBlank_eq_false (hname c List.mem_cons_self))
    rw [trimStart_append hgap hstart, List.takeWhile_append_of_pos hname]
    cases space with
    | nil =>
      rw [List.nil_append]
      rcases htailName with htailName | htailName
      · rw [htailName, List.append_nil]
        exact .inl rfl
      · exact .inr ((List.prefix_append_right_inj _).2 htailName)
    | cons b space =>
      have hb : p b = false := hp.eq_false_of_isBlank b (hspace b List.mem_cons_self)
      have hstop : StartsOutside p (b :: space ++ tail) := startsOutside_cons.2 hb
      rw [takeWhile_eq_nil_of_startsOutside hstop, List.append_nil]
      exact .inl rfl

/-- What a heading goes on with behind the keyword, and the name of the interface in it. -/
theorem firstSpan_of_namesInterface {name text : List Char} (hname : ∀ c ∈ name, p c = true)
    (h : namesInterface name text = true) :
    firstSpan p text = name ∨ name ++ "extends".toList <+: firstSpan p text := by
  obtain ⟨gap, rest, rfl, ⟨-, hgap⟩, hend⟩ := namesInterface_eq_true_iff.1 h
  obtain ⟨space, tail, rfl, hspace, htail⟩ := endsHere_eq_true_iff.1 hend
  exact firstSpan_of_layout hp hname hgap hspace htail

/-- **Two interfaces with a heading in common** are one, or `extends` goes on from the name of one of
them in the name of the other. -/
theorem eq_or_extends_of_isHeading {name other body : List Char} (hname : ∀ c ∈ name, p c = true)
    (hother : ∀ c ∈ other, p c = true) (h : IsHeading name body) (h' : IsHeading other body) :
    name = other ∨ name ++ "extends".toList <+: other ∨ other ++ "extends".toList <+: name := by
  rw [← opens_eq_true_iff, opens, Option.any_eq_true] at h h'
  obtain ⟨text, htext, hnames⟩ := h
  obtain ⟨text', htext', hnames'⟩ := h'
  obtain rfl : text = text' := Option.some.inj (htext.symm.trans htext')
  rcases firstSpan_of_namesInterface hp hname hnames with hfirst | hfirst
  · rcases firstSpan_of_namesInterface hp hother hnames' with hfirst' | hfirst'
    · exact .inl (hfirst.symm.trans hfirst')
    · exact .inr (.inr (hfirst ▸ hfirst'))
  · rcases firstSpan_of_namesInterface hp hother hnames' with hfirst' | hfirst'
    · exact .inr (.inl (hfirst' ▸ hfirst))
    · -- Both names go on with `extends` in one name, so the longer one goes on from the shorter one.
      rcases List.prefix_or_prefix_of_prefix hfirst hfirst' with hprefix | hprefix
      · exact (eq_or_extends_of_overlap hprefix).imp_right .inl
      · exact (eq_or_extends_of_overlap hprefix).imp Eq.symm .inr

end Span

/-! ## Headings with their brace -/

theorem opens_layout {mark indent exported : List Char} (name rest : List Char) (hmark : IsMark mark)
    (hindent : IsSpace indent) (hexported : IsExport exported) :
    opens name (mark ++ (indent ++ (exported ++ ("interface".toList ++ rest)))) =
      namesInterface name rest := by
  rw [opens, skipByteOrderMark_append hmark hindent hexported,
    skipExport_trimStart_eq_iff.2 ⟨indent, exported, rfl, hindent, hexported⟩, isPrefixOf?_append]
  rfl

/-- The first name in a text, which may be empty. -/
def firstName (text : List Char) : List Char := (trimStart text).takeWhile Attribute.isNameChar

theorem isNameClass_isNameChar : IsNameClass Attribute.isNameChar where
  eq_false_of_isBlank c hblank := by
    by_contra hplain
    rw [Attribute.isBlank_eq_false_of_isNameChar (Bool.not_eq_false _ ▸ hplain)] at hblank
    exact Bool.false_ne_true hblank
  brace := by decide
  extends_eq_true := List.all_eq_true.1 (by decide)

theorem firstName_braced {other : List Char} (h : IsPlain other) :
    firstName (' ' :: (other ++ [' ', '\x7b'])) = other := by
  have hspace : IsSpace [' '] := by decide
  unfold firstName
  cases other with
  | nil => rfl
  | cons c other =>
    have hstart : StartsOutside isBlank (c :: other ++ [' ', '\x7b']) :=
      startsOutside_cons.2 (Attribute.isBlank_eq_false_of_isNameChar h.of_cons.1)
    rw [← List.singleton_append, trimStart_append hspace hstart]
    exact takeWhile_append_of_boundary h (startsOutside_cons.2 (by decide))

/-- A heading with its brace is the heading of its own interface, whatever its name. -/
theorem isHeading_braced {exported : List Char} (hexported : IsExport exported) (name : List Char) :
    IsHeading name (exported ++ ("interface".toList ++ ' ' :: (name ++ [' ', '\x7b']))) :=
  ⟨[], [], exported, [' '], [' '], ['\x7b'], rfl, .inl rfl, isSpace_nil, hexported,
    ⟨List.cons_ne_nil _ _, by decide⟩, by decide, .inr (.inl ⟨[], rfl⟩)⟩

/-- **A heading with its brace is the heading of its own interface**, and of the other ones from whose
names `extends` goes on in the name of that one. -/
theorem isHeading_braced_iff {exported name other : List Char} (hexported : IsExport exported)
    (hname : IsPlain name) (hother : IsPlain other) :
    IsHeading name (exported ++ ("interface".toList ++ ' ' :: (other ++ [' ', '\x7b']))) ↔
      name = other ∨ name ++ "extends".toList <+: other := by
  constructor
  · have hmark : IsMark [] := .inl rfl
    have hopens := opens_layout name (' ' :: (other ++ [' ', '\x7b'])) hmark isSpace_nil hexported
    rw [List.nil_append, List.nil_append] at hopens
    rw [← opens_eq_true_iff, hopens]
    intro hnames
    have hfirst := firstSpan_of_namesInterface isNameClass_isNameChar hname hnames
    have hbraced : firstSpan Attribute.isNameChar (' ' :: (other ++ [' ', '\x7b'])) = other :=
      firstName_braced hother
    rw [hbraced] at hfirst
    exact hfirst.imp_left Eq.symm
  · rintro (rfl | ⟨more, rfl⟩)
    · exact isHeading_braced hexported name
    · refine ⟨[], [], exported, [' '], [], "extends".toList ++ (more ++ [' ', '\x7b']), ?_, .inl rfl,
        isSpace_nil, hexported, ⟨List.cons_ne_nil _ _, by decide⟩, isSpace_nil,
        .inr (.inr (List.prefix_append _ _))⟩
      simp only [List.append_assoc, List.cons_append, List.nil_append]

end InterfaceSync.Heading
