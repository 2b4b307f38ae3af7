import InterfaceSync.Proofs.WordChar
import InterfaceSync.Reconcile
import InterfaceSync.Reconcile.FieldLine

/-!
# What a line that declares a field is

A line declares a field if its parts are of the right shape (`IsDeclared`), and then it is read into
exactly these parts (`read?_eq_some_iff`).  Whatever reconciliation does to such a line concerns its
question mark, so a line is compared with another one by dropping the mark (`bare`).

* `read?_append`: a text behind a declaration goes to the part behind the colon.
* `bare_settle`, `settle_settle`: settling the mark changes nothing else, and the last one to settle it
  decides.
* `bare_append_bare`: dropping the mark and adding text behind the line can be done in either order.
* `balance_bare`, `mem_bare_iff`, `getLast?_bare`: what a scan sees of a line is not the mark.
-/

namespace InterfaceSync

open Text

namespace FieldLine

/-! ## The shape -/

/-- The parts of a line that declares a field: white space, a name, and something that begins with a
colon. -/
structure IsDeclared (l : FieldLine) : Prop where
  indent_isSpace : IsSpace l.indent
  exists_name_eq : ∃ c rest, l.name = c :: rest ∧ isNameStart c = true ∧
    ∀ d ∈ rest, isNameChar d = true
  exists_rest_eq : ∃ after, l.rest = ':' :: after

/-- The shape has nothing to do with the mark. -/
theorem IsDeclared.withOptional {l : FieldLine} (h : l.IsDeclared) (optional : Bool) :
    { l with optional := optional }.IsDeclared :=
  ⟨h.indent_isSpace, h.exists_name_eq, h.exists_rest_eq⟩

theorem isBlank_eq_false_of_isAlpha {c : Char} (h : c.isAlpha = true) : isBlank c = false :=
  of_toNat_lt (P := fun c => c.isAlpha = true → isBlank c = false) (by decide)
    (toNat_lt_of_isAlpha h) h

theorem isBlank_eq_false_of_isNameStart {c : Char} (h : isNameStart c = true) :
    isBlank c = false := by
  simp only [isNameStart, Bool.or_eq_true, beq_iff_eq] at h
  rcases h with (h | rfl) | rfl
  · exact isBlank_eq_false_of_isAlpha h
  · decide
  · decide

theorem isBlank_eq_false_of_isNameChar {c : Char} (h : isNameChar c = true) : isBlank c = false := by
  rcases Bool.or_eq_true_iff.1 h with hword | hdollar
  · by_contra hblank
    rw [isWordChar_eq_false_of_isBlank (Bool.not_eq_false _ ▸ hblank)] at hword
    simp at hword
  · rw [eq_of_beq hdollar]
    decide

/-- The name of a field has no white space in it. -/
theorem IsDeclared.isBlank_eq_false {l : FieldLine} (h : l.IsDeclared) {c : Char} (hc : c ∈ l.name) :
    isBlank c = false := by
  obtain ⟨first, rest, hname, hfirst, hrest⟩ := h.exists_name_eq
  rw [hname, List.mem_cons] at hc
  rcases hc with rfl | hc
  · exact isBlank_eq_false_of_isNameStart hfirst
  · exact isBlank_eq_false_of_isNameChar (hrest c hc)

/-- The mark and what begins with a colon do not go on with the name. -/
theorem startsOutside_mark (optional : Bool) (after : List Char) :
    StartsOutside isNameChar ((if optional then ['?'] else []) ++ ':' :: after) := by
  cases optional with
  | false => exact startsOutside_cons.2 (by decide)
  | true => exact startsOutside_cons.2 (by decide)

theorem readMark?_mark (optional : Bool) (after : List Char) :
    readMark? ((if optional then ['?'] else []) ++ ':' :: after) = some (optional, ':' :: after) := by
  cases optional with
  | false => rfl
  | true => rfl

theorem exists_eq_of_readMark? {text rest : List Char} {optional : Bool}
    (h : readMark? text = some (optional, rest)) : ∃ after, rest = ':' :: after := by
  unfold readMark? at h
  split at h
  · rename_i more
    exact ⟨more, ((Prod.mk.inj (Option.some.inj h)).2).symm⟩
  · rename_i more
    exact ⟨more, ((Prod.mk.inj (Option.some.inj h)).2).symm⟩
  · simp at h

/-- A line made from parts of the right shape is read into these parts. -/
theorem read?_text {l : FieldLine} (h : l.IsDeclared) : read? l.text = some l := by
  obtain ⟨indent, name, optional, rest⟩ := l
  obtain ⟨c, tail, hname, hc, htail⟩ := h.exists_name_eq
  obtain ⟨after, hrest⟩ := h.exists_rest_eq
  simp only at hname hrest
  subst hname hrest
  have hboundary : StartsOutside isBlank
      (c :: (tail ++ ((if optional then ['?'] else []) ++ ':' :: after))) :=
    startsOutside_cons.2 (isBlank_eq_false_of_isNameStart hc)
  have htext : text ⟨indent, c :: tail, optional, ':' :: after⟩ =
      indent ++ c :: (tail ++ ((if optional then ['?'] else []) ++ ':' :: after)) := by
    simp [text]
  have hmark := startsOutside_mark optional after
  unfold read?
  rw [htext, takeWhile_append_of_boundary h.indent_isSpace hboundary,
    dropWhile_append_of_boundary h.indent_isSpace hboundary]
  simp only [hc, if_true]
  rw [dropWhile_append_of_boundary htail hmark, takeWhile_append_of_boundary htail hmark,
    readMark?_mark]
  rfl

/-- What is read is of the right shape. -/
theorem isDeclared_of_read? {body : List Char} {l : FieldLine} (h : read? body = some l) :
    l.IsDeclared := by
  unfold read? at h
  cases hdrop : body.dropWhile isBlank with
  | nil => simp [hdrop] at h
  | cons c rest =>
    simp only [hdrop] at h
    split at h
    · rename_i hc
      obtain ⟨⟨optional, after⟩, hmark, rfl⟩ := Option.map_eq_some_iff.1 h
      exact ⟨isSpace_takeWhile body, ⟨c, _, rfl, hc, fun _ hd => List.mem_takeWhile_imp hd⟩,
        exists_eq_of_readMark? hmark⟩
    · simp at h

/-- **A line is read into the parts of the right shape that make it up.** -/
theorem read?_eq_some_iff {body : List Char} {l : FieldLine} :
    read? body = some l ↔ l.IsDeclared ∧ l.text = body := by
  constructor
  · exact fun h => ⟨isDeclared_of_read? h, text_of_read? h⟩
  · rintro ⟨h, rfl⟩
    exact read?_text h

/-- A line declares no field if it cannot be made from parts of the right shape. -/
theorem read?_eq_none_iff {body : List Char} :
    read? body = none ↔ ∀ l : FieldLine, l.IsDeclared → l.text ≠ body := by
  rw [Option.eq_none_iff_forall_ne_some]
  constructor
  · exact fun h l hl htext => h l (read?_eq_some_iff.2 ⟨hl, htext⟩)
  · exact fun h l hl => h l (isDeclared_of_read? hl) (text_of_read? hl)

/-- A text behind a declaration goes to the part behind the colon. -/
theorem read?_append {body : List Char} {l : FieldLine} (h : read? body = some l)
    (more : List Char) : read? (body ++ more) = some { l with rest := l.rest ++ more } := by
  have hl := isDeclared_of_read? h
  obtain ⟨after, hafter⟩ := hl.exists_rest_eq
  refine read?_eq_some_iff.2 ⟨⟨hl.indent_isSpace, hl.exists_name_eq, after ++ more, ?_⟩, ?_⟩
  · rw [hafter, List.cons_append]
  · rw [← text_of_read? h]
    simp [text]

/-! ## The line without its mark -/

/-- The body of a line without the question mark of a declaration. -/
def bare (body : List Char) : List Char :=
  match read? body with
  | some l => text { l with optional := false }
  | none => body

theorem bare_of_read?_eq_none {body : List Char} (h : read? body = none) : bare body = body := by
  simp [bare, h]

theorem bare_of_read? {body : List Char} {l : FieldLine} (h : read? body = some l) :
    bare body = text { l with optional := false } := by
  simp [bare, h]

/-- Only what concerns the mark is looked at when a line is rewritten. -/
theorem rewrite?_of_read? {body : List Char} {l : FieldLine} (h : read? body = some l)
    (required : List String) : rewrite? required body =
      if l.optional = !required.contains (String.ofList l.name) then none
      else some (text { l with optional := !required.contains (String.ofList l.name) }) := by
  simp only [rewrite?, h]
  cases required.contains (String.ofList l.name) with
  | true => cases l.optional <;> rfl
  | false => cases l.optional <;> rfl

theorem settle_of_read? {body : List Char} {l : FieldLine} (h : read? body = some l)
    (required : List String) :
    settle required body =
      text { l with optional := !required.contains (String.ofList l.name) } := by
  rw [settle, rewrite?_of_read? h]
  split
  · rename_i hright
    rw [Option.getD_none, ← text_of_read? h, ← hright]
  · rw [Option.getD_some]

/-- A line that is rewritten becomes another one: the two are read with different marks. -/
theorem ne_of_rewrite? {required : List String} {body rewritten : List Char}
    (h : rewrite? required body = some rewritten) : rewritten ≠ body := by
  cases hread : read? body with
  | none => simp [rewrite?, hread] at h
  | some l =>
    rw [rewrite?_of_read? hread] at h
    split at h
    · simp at h
    · rename_i hwrong
      obtain rfl := Option.some.inj h
      intro hbody
      have hread' := read?_text ((isDeclared_of_read? hread).withOptional
        (!required.contains (String.ofList l.name)))
      rw [hbody, hread, Option.some.injEq] at hread'
      exact hwrong (congrArg FieldLine.optional hread')

/-- Settling the mark of a line gives a line that is read into the same parts. -/
theorem read?_settle {body : List Char} {l : FieldLine} (h : read? body = some l)
    (required : List String) : read? (settle required body) =
      some { l with optional := !required.contains (String.ofList l.name) } := by
  rw [settle_of_read? h]
  exact read?_text ((isDeclared_of_read? h).withOptional _)

theorem read?_bare {body : List Char} {l : FieldLine} (h : read? body = some l) :
    read? (bare body) = some { l with optional := false } := by
  rw [bare_of_read? h]
  exact read?_text ((isDeclared_of_read? h).withOptional _)

/-- Settling the mark changes nothing else. -/
@[simp] theorem bare_settle (required : List String) (body : List Char) :
    bare (settle required body) = bare body := by
  cases h : read? body with
  | none => rw [settle_of_read?_eq_none h]
  | some l => rw [bare_of_read? (read?_settle h required), bare_of_read? h]

/-- The last one to settle the mark decides. -/
@[simp] theorem settle_settle (required earlier : List String) (body : List Char) :
    settle required (settle earlier body) = settle required body := by
  cases h : read? body with
  | none => rw [settle_of_read?_eq_none h]
  | some l => rw [settle_of_read? (read?_settle h earlier), settle_of_read? h]

/-- Dropping the mark and adding text behind the line can be done in either order. -/
theorem bare_append_bare (body more : List Char) : bare (bare body ++ more) = bare (body ++ more) := by
  cases h : read? body with
  | none => rw [bare_of_read?_eq_none h]
  | some l => rw [bare_of_read? (read?_append (read?_bare h) more), bare_of_read? (read?_append h more)]

@[simp] theorem bare_bare (body : List Char) : bare (bare body) = bare body := by
  simpa using bare_append_bare body []

/-! ## What a scan sees of a line -/

/-- A property of texts that does not see the mark does not tell a line from the line without it. -/
theorem apply_bare {β : Type} (f : List Char → β)
    (h : ∀ front rest : List Char, f (front ++ '?' :: rest) = f (front ++ rest) ∨ ':' ∉ rest)
    (body : List Char) : f (bare body) = f body := by
  cases hread : read? body with
  | none => rw [bare_of_read?_eq_none hread]
  | some l =>
    obtain ⟨after, hafter⟩ := (isDeclared_of_read? hread).exists_rest_eq
    rw [bare_of_read? hread, ← text_of_read? hread]
    cases hoptional : l.optional with
    | false => rw [← hoptional]
    | true =>
      have hmem : ':' ∈ l.rest := by
        rw [hafter]
        exact List.mem_cons_self
      have hf := (h (l.indent ++ l.name) l.rest).resolve_right (not_not_intro hmem)
      simpa [text, hoptional] using hf.symm

theorem count_bare {c : Char} (hc : c ≠ '?') (body : List Char) :
    (bare body).count c = body.count c := by
  refine apply_bare (List.count c) (fun front rest => .inl ?_) body
  rw [List.count_append, List.count_append, List.count_cons_of_ne (Ne.symm hc)]

theorem mem_bare_iff {c : Char} (hc : c ≠ '?') {body : List Char} : c ∈ bare body ↔ c ∈ body := by
  rw [← List.count_pos_iff, count_bare hc, List.count_pos_iff]

theorem feed_not_mem_bare {body : List Char} (h : '\n' ∉ body) : '\n' ∉ bare body := by
  rw [mem_bare_iff (by decide)]
  exact h

@[simp] theorem opened_bare (body : List Char) : Reconcile.opened (bare body) = Reconcile.opened body :=
  count_bare (by decide) body

@[simp] theorem balance_bare (body : List Char) :
    Reconcile.balance (bare body) = Reconcile.balance body := by
  rw [Reconcile.balance, Reconcile.balance, count_bare (by decide), count_bare (by decide)]

theorem getLast?_bare (body : List Char) : (bare body).getLast? = body.getLast? := by
  refine apply_bare List.getLast? (fun front rest => ?_) body
  cases rest with
  | nil => exact .inr (by simp)
  | cons c rest =>
    refine .inl ?_
    rw [List.getLast?_append, List.getLast?_append, List.getLast?_cons_cons]

theorem bare_eq_nil_iff {body : List Char} : bare body = [] ↔ body = [] := by
  rw [← List.getLast?_eq_none_iff, getLast?_bare, List.getLast?_eq_none_iff]

end FieldLine
end InterfaceSync
