import InterfaceSync.Declaration
import InterfaceSync.Proofs.FieldLine
import InterfaceSync.Proofs.Lines
import InterfaceSync.Proofs.PlainHeading

/-!
# Lines that are generated for declarations

A declaration is generated on a line of its own.  If its field has a name as attributes give it, then the
line is read again as a declaration with these parts and is no heading, unless a type with line feeds
makes several lines of it.  If the type is a plain name as well, the line opens and closes no brace.

* `settle_line`: settling the line is settling the declaration.
* `isEnded_docLine`, `unlines_map_docLine`: declarations as lines of a document.
* `not_isHeading_line`, `balance_line`: what a scan does not find on such a line.
-/

namespace InterfaceSync

open Text

namespace Declaration

/-- A declaration once the required fields are known: optional exactly when its name is not one of
them. -/
def settled (required : List String) (d : Declaration) : Declaration :=
  { d with alwaysPresent := decide (d.name ∈ required) }

/-- A declaration with the name of a field and a type on one line. -/
structure IsOneLine (d : Declaration) : Prop where
  name_isFieldName : IsFieldName d.name.toList
  feed_notMem_type : '\n' ∉ d.type.toList

/-- A declaration with the name of a field and a plain type. -/
structure IsPlain (d : Declaration) : Prop where
  name_isFieldName : IsFieldName d.name.toList
  type_isPlain : InterfaceSync.IsPlain d.type.toList

variable {d : Declaration}

theorem IsPlain.isOneLine (h : d.IsPlain) : d.IsOneLine :=
  ⟨h.name_isFieldName, h.type_isPlain.not_mem (by decide)⟩

theorem IsPlain.settled (h : d.IsPlain) (required : List String) : (d.settled required).IsPlain :=
  ⟨h.name_isFieldName, h.type_isPlain⟩

/-! ## The line and its parts -/

/-- The line of a declaration, in its parts. -/
def fieldLine (d : Declaration) : FieldLine where
  indent := [' ', ' ']
  name := d.name.toList
  optional := !d.alwaysPresent
  rest := ':' :: ' ' :: (d.type.toList ++ [';'])

theorem toList_line (d : Declaration) : d.line.toList = d.fieldLine.text := by
  cases h : d.alwaysPresent with
  | true => simp [line, fieldLine, FieldLine.text, h]
  | false => simp [line, fieldLine, FieldLine.text, h]

theorem isDeclared_fieldLine (h : IsFieldName d.name.toList) : d.fieldLine.IsDeclared where
  indent_isSpace := by
    show IsSpace [' ', ' ']
    decide
  exists_name_eq := by
    obtain ⟨c, rest, hname, hc, hrest⟩ := h
    refine ⟨c, rest, hname, ?_, fun e he => ?_⟩
    · simp only [FieldLine.isNameStart, Attribute.isNameStart, Bool.or_eq_true] at hc ⊢
      exact .inl hc
    · exact of_isNameChar (P := fun e => FieldLine.isNameChar e = true) (by decide) (hrest e he)
  exists_rest_eq := ⟨_, rfl⟩

theorem read?_line (h : d.IsPlain) : FieldLine.read? d.line.toList = some d.fieldLine := by
  rw [toList_line]
  exact FieldLine.read?_text (isDeclared_fieldLine h.name_isFieldName)

/-- **Settling the line of a declaration** gives the line of the declaration once it is settled. -/
theorem settle_line (h : d.IsPlain) (required : List String) :
    FieldLine.settle required d.line.toList = (d.settled required).line.toList := by
  rw [FieldLine.settle_of_read? (read?_line h), toList_line]
  simp [fieldLine, settled]

/-! ## The characters of the line -/

/-- A character of the line is plain or one of the four that stand between names. -/
theorem isNameChar_of_mem_line (h : d.IsPlain) {c : Char} (hc : c ∈ d.line.toList) :
    Attribute.isNameChar c = true ∨ c ∈ [' ', '?', ':', ';'] := by
  have hindent : [' ', ' '] ⊆ [' ', '?', ':', ';'] := by decide
  have hmark : (if !d.alwaysPresent then ['?'] else []) ⊆ [' ', '?', ':', ';'] := by
    cases d.alwaysPresent with
    | true => decide
    | false => decide
  rw [toList_line, FieldLine.text, List.mem_append, List.mem_append, List.mem_append] at hc
  rcases hc with ((hc | hc) | hc) | hc
  · exact .inr (hindent hc)
  · exact .inl (h.name_isFieldName.isPlain c hc)
  · exact .inr (hmark hc)
  · rw [fieldLine, List.mem_cons, List.mem_cons, List.mem_append, List.mem_singleton] at hc
    rcases hc with rfl | rfl | hc | rfl
    · exact .inr (by decide)
    · exact .inr (by decide)
    · exact .inl (h.type_isPlain c hc)
    · exact .inr (by decide)

theorem not_mem_line (h : d.IsPlain) {c : Char} (hplain : Attribute.isNameChar c = false)
    (hother : c ∉ [' ', '?', ':', ';']) : c ∉ d.line.toList := by
  intro hc
  rcases isNameChar_of_mem_line h hc with hc | hc
  · rw [hplain] at hc
    simp at hc
  · exact hother hc

theorem opened_line (h : d.IsPlain) : Reconcile.opened d.line.toList = 0 :=
  List.count_eq_zero_of_not_mem (not_mem_line h (by decide) (by decide))

theorem balance_line (h : d.IsPlain) : Reconcile.balance d.line.toList = 0 := by
  have hclosed : d.line.toList.count '\x7d' = 0 :=
    List.count_eq_zero_of_not_mem (not_mem_line h (by decide) (by decide))
  have hopened : d.line.toList.count '\x7b' = 0 := opened_line h
  rw [Reconcile.balance, hopened, hclosed]
  rfl

/-! ## The line in a document -/

/-- A declaration as a line of a document. -/
def docLine (d : Declaration) : Line := ⟨d.line.toList, ['\n']⟩

theorem isEnded_docLine (h : d.IsOneLine) : d.docLine.IsEnded where
  notMem := by
    have hname : '\n' ∉ d.name.toList := h.name_isFieldName.isPlain.not_mem (by decide)
    rw [docLine, toList_line, FieldLine.text]
    simp [fieldLine, hname, h.feed_notMem_type]
  ending_eq := by
    refine .inr ⟨rfl, ?_⟩
    have hlast : d.line.toList.getLast? = some ';' := by
      rw [toList_line, FieldLine.text, fieldLine, List.getLast?_append, List.getLast?_cons_cons,
        List.getLast?_cons, List.getLast?_concat]
      rfl
    rw [docLine, hlast]
    decide

theorem unlines_map_docLine (declarations : List Declaration) :
    unlines (declarations.map docLine) = (Declaration.lines declarations).toList := by
  induction declarations with
  | nil => rfl
  | cons d rest ih =>
    have hcons : Declaration.lines (d :: rest) = d.line ++ "\n" ++ Declaration.lines rest := by
      simp [Declaration.lines]
    rw [List.map_cons, unlines_cons, ih, hcons, String.toList_append, String.toList_append]
    rfl

/-- A declaration is no heading. -/
theorem not_isHeading_line (h : IsFieldName d.name.toList) (name : List Char) :
    ¬ Heading.IsHeading name d.line.toList := by
  rw [toList_line]
  exact Heading.not_isHeading_of_isDeclared (isDeclared_fieldLine h)

end Declaration
end InterfaceSync
