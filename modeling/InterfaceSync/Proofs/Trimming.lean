import InterfaceSync.Proofs.Spans

/-!
# White space around a text

Trimming takes the white space in front of a text and the white space behind it.  A text that neither
begins nor ends with white space is what is left of every text that has it with white space around it.

* `trim_trim`: white space around a text is gone for good.
* `exists_eq_append_trim`: a text is white space, what is left of it, and white space.
* `trim_surrounded`: what is left of a text with white space around it.
-/

namespace InterfaceSync.Text

theorem startsOutside_trimStart (text : List Char) : StartsOutside isBlank (trimStart text) := by
  intro c hc
  have hfirst := List.head?_dropWhile_not isBlank text
  rw [trimStart, Option.mem_def] at hc
  rw [hc] at hfirst
  simpa using hfirst

/-- The white space behind a text ends in front of the last character that is not white space. -/
theorem trimEnd_cons {c : Char} (hc : isBlank c = false) (rest : List Char) :
    trimEnd (c :: rest) = c :: trimEnd rest := by
  have hlast : [c].dropWhile isBlank = [c] := by rw [List.dropWhile_cons, hc]; rfl
  have hdrop : (rest.reverse ++ [c]).dropWhile isBlank = rest.reverse.dropWhile isBlank ++ [c] := by
    rw [List.dropWhile_append, hlast]
    split
    · rename_i hnil
      rw [List.isEmpty_iff.1 hnil, List.nil_append]
    · rfl
  rw [trimEnd, List.reverse_cons, hdrop, List.reverse_append]
  rfl

theorem trimStart_trimStart (text : List Char) : trimStart (trimStart text) = trimStart text :=
  dropWhile_eq_self_of_startsOutside (startsOutside_trimStart text)

theorem trimEnd_trimEnd (text : List Char) : trimEnd (trimEnd text) = trimEnd text := by
  show (trimStart (trimStart text.reverse).reverse.reverse).reverse = (trimStart text.reverse).reverse
  rw [List.reverse_reverse, trimStart_trimStart]

/-- A text without white space in front of it gets none by losing the white space behind it. -/
theorem startsOutside_trimEnd {text : List Char} (h : StartsOutside isBlank text) :
    StartsOutside isBlank (trimEnd text) := by
  cases text with
  | nil => exact h
  | cons c rest =>
    have hc := startsOutside_cons.1 h
    rw [trimEnd_cons hc]
    exact startsOutside_cons.2 hc

/-- **White space around a text is gone for good.** -/
theorem trim_trim (text : List Char) : trim (trim text) = trim text := by
  have hstart : trimStart (trimEnd (trimStart text)) = trimEnd (trimStart text) :=
    dropWhile_eq_self_of_startsOutside (startsOutside_trimEnd (startsOutside_trimStart text))
  calc trim (trim text) = trimEnd (trimStart (trimEnd (trimStart text))) := rfl
    _ = trimEnd (trimEnd (trimStart text)) := by rw [hstart]
    _ = trim text := trimEnd_trimEnd _

/-! ## Texts with white space around them -/

/-- A text that does not end with a character of the class. -/
def EndsOutside (p : Char → Bool) (text : List Char) : Prop := ∀ c ∈ text.getLast?, p c = false

theorem endsOutside_nil (p : Char → Bool) : EndsOutside p [] :=
  fun c hc => absurd hc (Option.not_mem_none c)

theorem endsOutside_of_forall {p : Char → Bool} {text : List Char} (h : ∀ c ∈ text, p c = false) :
    EndsOutside p text :=
  fun c hc => h c (List.mem_of_getLast? hc)

theorem EndsOutside.append {p : Char → Bool} {text more : List Char} (h : EndsOutside p text)
    (hmore : EndsOutside p more) : EndsOutside p (text ++ more) := by
  intro c hc
  rw [List.getLast?_append] at hc
  cases hlast : more.getLast? with
  | none =>
    rw [hlast] at hc
    exact h c hc
  | some d =>
    rw [hlast] at hc
    exact hmore c (hlast.trans hc)

/-- A text is what is left when white space behind it is gone, if it does not end with any. -/
theorem trimEnd_append {body after : List Char} (hafter : IsSpace after)
    (boundary : EndsOutside isBlank body) : trimEnd (body ++ after) = body := by
  have hinside : IsSpace after.reverse := fun c hc => hafter c (List.mem_reverse.1 hc)
  have hboundary : StartsOutside isBlank body.reverse := by
    intro c hc
    rw [List.head?_reverse] at hc
    exact boundary c hc
  rw [trimEnd, List.reverse_append, dropWhile_append_of_boundary hinside hboundary, List.reverse_reverse]

/-- **What is left of a text with white space around it.** -/
theorem trim_surrounded {before body after : List Char} (hbefore : IsSpace before)
    (hafter : IsSpace after) (hne : body ≠ []) (hfirst : StartsOutside isBlank body)
    (hlast : EndsOutside isBlank body) : trim (before ++ (body ++ after)) = body := by
  have hstart : StartsOutside isBlank (body ++ after) := by
    intro c hc
    rw [List.head?_append_of_ne_nil _ hne] at hc
    exact hfirst c hc
  rw [trim, trimStart_append hbefore hstart, trimEnd_append hafter hlast]

/-- **A text is white space, what is left of it, and white space.** -/
theorem exists_eq_append_trim (text : List Char) :
    ∃ before after, IsSpace before ∧ IsSpace after ∧ text = before ++ (trim text ++ after) := by
  obtain ⟨before, hbefore, htext⟩ := exists_eq_space_append text
  obtain ⟨space, hspace, hreverse⟩ := exists_eq_space_append (trimStart text).reverse
  refine ⟨before, space.reverse, hbefore, fun c hc => hspace c (List.mem_reverse.1 hc), ?_⟩
  have hend : trimStart text = trim text ++ space.reverse := by
    have hback := congrArg List.reverse hreverse
    rwa [List.reverse_reverse, List.reverse_append] at hback
  exact hend ▸ htext

end InterfaceSync.Text
