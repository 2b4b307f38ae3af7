import InterfaceSync.Text.Replace
import Mathlib.Data.List.Basic
import Mathlib.Data.List.Infix

/-!
# Replacing a pattern

What becomes of a text that is put together from parts when a pattern is replaced in it.  A pattern whose
last character stands nowhere else in it has no two places that overlap (`EndsOnce.prefix_of_append`), so
the text on both sides of a place is replaced by itself (`replaceAll_append_pattern`).

A list of items is written down, and some of the items are written as the pattern.  To replace the pattern
in the text is to write the replacement for these items exactly if the pattern is not found anywhere else
(`replaceAll_flatMap_eq_iff`).  For one direction the lengths are compared: every place that is too many
makes the text longer, or every one makes it shorter, or the replacement is as long as the pattern.
-/

namespace InterfaceSync.Text

variable {pattern replacement : List Char}

/-! ## One place -/

theorem replaceAll_append (hne : pattern ≠ []) (replacement rest : List Char) :
    replaceAll pattern replacement (pattern ++ rest) =
      replacement ++ replaceAll pattern replacement rest := by
  obtain ⟨c, front, rfl⟩ := List.exists_cons_of_ne_nil hne
  have hprefix : (c :: front).isPrefixOf (c :: (front ++ rest)) = true :=
    List.isPrefixOf_iff_prefix.2 (List.prefix_append (c :: front) rest)
  rw [List.cons_append, replaceAll, if_pos ⟨hne, hprefix⟩]
  simp

theorem replaceAll_cons {c : Char} {rest : List Char} (h : ¬ pattern <+: c :: rest)
    (replacement : List Char) :
    replaceAll pattern replacement (c :: rest) = c :: replaceAll pattern replacement rest := by
  rw [replaceAll, if_neg]
  rintro ⟨-, hprefix⟩
  exact h (List.isPrefixOf_iff_prefix.1 hprefix)

/-- A text is nothing, or the pattern and a text, or a character at which no place begins and a text. -/
theorem place_induction {motive : List Char → Prop} (hne : pattern ≠ []) (nil : motive [])
    (place : ∀ rest, motive rest → motive (pattern ++ rest))
    (other : ∀ c rest, ¬ pattern <+: c :: rest → motive rest → motive (c :: rest)) (text : List Char) :
    motive text := by
  induction h : text.length using Nat.strong_induction_on generalizing text with
  | h n ih =>
    by_cases hprefix : pattern <+: text
    · obtain ⟨rest, rfl⟩ := hprefix
      have hpos := List.length_pos_iff.2 hne
      rw [List.length_append] at h
      exact place rest (ih rest.length (by omega) rest rfl)
    · cases text with
      | nil => exact nil
      | cons c rest =>
        rw [List.length_cons] at h
        exact other c rest hprefix (ih rest.length (by omega) rest rfl)

/-- Each place makes the same difference to the length. -/
theorem length_replaceAll (hne : pattern ≠ []) (replacement text : List Char) :
    ∃ n, (replaceAll pattern replacement text).length + n * pattern.length =
      text.length + n * replacement.length := by
  induction text using place_induction hne with
  | nil => exact ⟨0, by simp⟩
  | place rest ih =>
    obtain ⟨n, hn⟩ := ih
    refine ⟨n + 1, ?_⟩
    rw [replaceAll_append hne, List.length_append, List.length_append, Nat.add_mul, Nat.add_mul]
    omega
  | other c rest hprefix ih =>
    obtain ⟨n, hn⟩ := ih
    refine ⟨n, ?_⟩
    rw [replaceAll_cons hprefix, List.length_cons, List.length_cons]
    omega

/-- A text stays as it is exactly if the pattern is put in for itself or has no place in it. -/
theorem replaceAll_eq_self_iff (hne : pattern ≠ []) {text : List Char} :
    replaceAll pattern replacement text = text ↔ replacement = pattern ∨ ¬ pattern <:+: text := by
  induction text using place_induction hne with
  | nil => simp [hne]
  | place rest ih =>
    have hplace : pattern <:+: pattern ++ rest := (List.prefix_append pattern rest).isInfix
    rw [replaceAll_append hne]
    constructor
    · intro h
      obtain ⟨n, hn⟩ := length_replaceAll hne replacement rest
      have hlength := congrArg List.length h
      rw [List.length_append, List.length_append] at hlength
      have hmul : (n + 1) * replacement.length = (n + 1) * pattern.length := by
        rw [Nat.add_mul, Nat.add_mul]
        omega
      exact .inl (List.append_inj_left h (Nat.eq_of_mul_eq_mul_left n.succ_pos hmul))
    · rintro (rfl | habsent)
      · rw [ih.2 (.inl rfl)]
      · exact absurd hplace habsent
  | other c rest hprefix ih =>
    have hwithin : pattern <:+: c :: rest ↔ pattern <:+: rest := by
      rw [List.infix_cons_iff, or_iff_right hprefix]
    rw [replaceAll_cons hprefix, List.cons.injEq, hwithin, ← ih]
    simp

/-! ## A pattern that ends once -/

/-- The last character of the pattern stands nowhere else in it. -/
def EndsOnce (pattern : List Char) : Prop := ∃ front c, pattern = front ++ [c] ∧ c ∉ front

theorem EndsOnce.ne_nil (h : EndsOnce pattern) : pattern ≠ [] := by
  obtain ⟨front, c, rfl, -⟩ := h
  simp

/-- A place that begins in front of another one ends there. -/
theorem EndsOnce.prefix_of_append (h : EndsOnce pattern) {text rest : List Char} (hne : text ≠ [])
    (hplace : pattern <+: text ++ (pattern ++ rest)) : pattern <+: text := by
  obtain ⟨front, c, rfl, hc⟩ := h
  rcases List.prefix_or_prefix_of_prefix hplace
    (List.prefix_append text (front ++ [c] ++ rest)) with hprefix | ⟨tail, htail⟩
  · exact hprefix
  · rcases List.eq_nil_or_concat tail with rfl | ⟨init, d, rfl⟩
    · rw [← htail, List.append_nil]
    · -- the place would end inside the other one, with the character that ends both
      have hends : text ++ init ++ [d] = front ++ [c] := by
        rw [← htail, List.concat_eq_append, List.append_assoc]
      obtain ⟨hfront, rfl⟩ := List.append_singleton_inj.1 hends
      have hinner : init ++ [d] <+: front ++ ([d] ++ rest) := by
        rw [← List.prefix_append_right_inj text, ← List.append_assoc text init, hends,
          ← List.append_assoc front]
        exact hplace
      have hlength : (init ++ [d]).length ≤ front.length := by
        have hpos := List.length_pos_iff.2 hne
        rw [← hfront, List.length_append, List.length_append, List.length_singleton]
        omega
      have hshort := List.prefix_of_prefix_length_le hinner (List.prefix_append front _) hlength
      exact absurd (hshort.mem (by simp)) hc

theorem replaceAll_append_pattern (h : EndsOnce pattern) (replacement text rest : List Char) :
    replaceAll pattern replacement (text ++ (pattern ++ rest)) =
      replaceAll pattern replacement text ++ (replacement ++ replaceAll pattern replacement rest) := by
  induction text using place_induction h.ne_nil with
  | nil => simp [replaceAll_append h.ne_nil]
  | place text ih =>
    rw [List.append_assoc, replaceAll_append h.ne_nil, replaceAll_append h.ne_nil, ih,
      List.append_assoc]
  | other c text hprefix ih =>
    have hplace : ¬ pattern <+: c :: (text ++ (pattern ++ rest)) := by
      intro hplace
      rw [← List.cons_append] at hplace
      exact hprefix (h.prefix_of_append (List.cons_ne_nil c text) hplace)
    rw [List.cons_append, replaceAll_cons hplace, replaceAll_cons hprefix, ih, List.cons_append]

/-- Two parts whose lengths are off by the same step, in the same direction, do not make up for each
other. -/
theorem length_eq_of_append_eq {first first' middle rest rest' : List Char}
    (hfirst : ∃ m, first.length + m * pattern.length = first'.length + m * replacement.length)
    (hrest : ∃ n, rest.length + n * pattern.length = rest'.length + n * replacement.length)
    (heq : first ++ (middle ++ rest) = first' ++ (middle ++ rest')) :
    first.length = first'.length := by
  obtain ⟨m, hm⟩ := hfirst
  obtain ⟨n, hn⟩ := hrest
  have hlength := congrArg List.length heq
  simp only [List.length_append] at hlength
  have hmul : (m + n) * pattern.length = (m + n) * replacement.length := by
    rw [Nat.add_mul, Nat.add_mul]
    omega
  rcases Nat.eq_zero_or_pos (m + n) with hzero | hpos
  · obtain ⟨rfl, -⟩ := Nat.add_eq_zero_iff.1 hzero
    omega
  · rw [Nat.eq_of_mul_eq_mul_left hpos hmul] at hm
    omega

/-! ## Items that are written down -/

section Items

variable {α : Type} {own : α → Prop} {write rewrite : α → List Char} {items : List α}

/-- A list of items is a stretch without items of a kind, or such a stretch, an item of the kind and a
list. -/
theorem stretch_induction (own : α → Prop) {motive : List α → Prop}
    (stretch : ∀ items, (∀ a ∈ items, ¬ own a) → motive items)
    (next : ∀ before a after, (∀ b ∈ before, ¬ own b) → own a → motive after →
      motive (before ++ a :: after)) (items : List α) : motive items := by
  suffices h : ∀ before : List α, (∀ b ∈ before, ¬ own b) → motive (before ++ items) from
    h [] (by simp)
  induction items with
  | nil =>
    intro before hbefore
    rw [List.append_nil]
    exact stretch before hbefore
  | cons a items ih =>
    intro before hbefore
    by_cases ha : own a
    · exact next before a items hbefore ha (ih [] (by simp))
    · rw [List.append_cons]
      refine ih (before ++ [a]) fun b hb => ?_
      rcases List.mem_append.1 hb with hb | hb
      · exact hbefore b hb
      · rwa [List.mem_singleton.1 hb]

/-- A stretch without an item lies on one side of it. -/
theorem infix_append_cons {stretch before after : List α} {a : α} (ha : a ∉ stretch)
    (h : stretch <:+: before ++ a :: after) : stretch <:+: before ∨ stretch <:+: after := by
  have hnil {front : List α} (hfront : front <+: a :: after) (hmem : a ∉ front) : front = [] := by
    rcases List.prefix_cons_iff.1 hfront with hnil | ⟨tail, rfl, -⟩
    · exact hnil
    · simp at hmem
  rcases List.infix_append_iff.1 h with hbefore | hafter | ⟨front, back, rfl, hfront, hback⟩
  · exact .inl hbefore
  · rcases List.infix_cons_iff.1 hafter with hprefix | hafter
    · rw [hnil hprefix ha]
      exact .inr List.nil_infix
    · exact .inr hafter
  · rw [hnil hback fun hmem => ha (List.mem_append_right front hmem), List.append_nil]
    exact .inl hfront.isInfix

theorem flatMap_rewrite (others : ∀ a, ¬ own a → rewrite a = write a) (h : ∀ a ∈ items, ¬ own a) :
    items.flatMap rewrite = items.flatMap write :=
  List.flatMap_congr fun a ha => others a (h a ha)

variable (owns : ∀ a, own a → write a = pattern ∧ rewrite a = replacement)
  (others : ∀ a, ¬ own a → rewrite a = write a)

include owns others

/-- Each place that is too many makes the same difference to the length. -/
theorem length_replaceAll_flatMap (h : EndsOnce pattern) (items : List α) :
    ∃ n, (replaceAll pattern replacement (items.flatMap write)).length + n * pattern.length =
      (items.flatMap rewrite).length + n * replacement.length := by
  induction items using stretch_induction own with
  | stretch items hitems =>
    rw [flatMap_rewrite others hitems]
    exact length_replaceAll h.ne_nil replacement (items.flatMap write)
  | next before a after hbefore ha ih =>
    obtain ⟨m, hm⟩ := length_replaceAll h.ne_nil replacement (before.flatMap write)
    obtain ⟨n, hn⟩ := ih
    refine ⟨m + n, ?_⟩
    simp only [List.flatMap_append, List.flatMap_cons, (owns a ha).1, (owns a ha).2,
      replaceAll_append_pattern h, flatMap_rewrite others hbefore, List.length_append, Nat.add_mul]
    omega

/-- **The replacement is written for the items that are written as the pattern** exactly if no stretch
between these items has a place of the pattern, or the pattern is put in for itself. -/
theorem replaceAll_flatMap_eq_iff (h : EndsOnce pattern) (items : List α) :
    replaceAll pattern replacement (items.flatMap write) = items.flatMap rewrite ↔
      replacement = pattern ∨ ∀ stretch, stretch <:+: items → (∀ a ∈ stretch, ¬ own a) →
        ¬ pattern <:+: stretch.flatMap write := by
  induction items using stretch_induction own with
  | stretch items hitems =>
    rw [flatMap_rewrite others hitems, replaceAll_eq_self_iff h.ne_nil]
    refine or_congr_right ?_
    constructor
    · intro habsent stretch hstretch _ hplace
      exact habsent (hplace.trans (hstretch.flatMap write))
    · intro habsent
      exact habsent items List.infix_rfl hitems
  | next before a after hbefore ha ih =>
    have hwrite : (before ++ a :: after).flatMap write =
        before.flatMap write ++ (pattern ++ after.flatMap write) := by
      rw [List.flatMap_append, List.flatMap_cons, (owns a ha).1]
    have hrewrite : (before ++ a :: after).flatMap rewrite =
        before.flatMap write ++ (replacement ++ after.flatMap rewrite) := by
      rw [List.flatMap_append, List.flatMap_cons, (owns a ha).2, flatMap_rewrite others hbefore]
    have hparts : replaceAll pattern replacement ((before ++ a :: after).flatMap write) =
          (before ++ a :: after).flatMap rewrite ↔
        replaceAll pattern replacement (before.flatMap write) = before.flatMap write ∧
          replaceAll pattern replacement (after.flatMap write) = after.flatMap rewrite := by
      rw [hwrite, hrewrite, replaceAll_append_pattern h]
      constructor
      · intro heq
        have hlength := length_eq_of_append_eq
          (length_replaceAll h.ne_nil replacement (before.flatMap write))
          (length_replaceAll_flatMap owns others h after) heq
        obtain ⟨hfirst, hrest⟩ := List.append_inj heq hlength
        exact ⟨hfirst, List.append_cancel_left hrest⟩
      · rintro ⟨hfirst, hrest⟩
        rw [hfirst, hrest]
    rw [hparts, replaceAll_eq_self_iff h.ne_nil, ih, ← or_and_left]
    refine or_congr_right ?_
    constructor
    · rintro ⟨hfirst, hrest⟩ stretch hstretch hnone hplace
      rcases infix_append_cons (fun hmem => hnone a hmem ha) hstretch with hstretch | hstretch
      · exact hfirst (hplace.trans (hstretch.flatMap write))
      · exact hrest stretch hstretch hnone hplace
    · intro habsent
      have hfirst : before <:+: before ++ a :: after := (List.prefix_append before _).isInfix
      have hrest : after <:+: before ++ a :: after := ⟨before ++ [a], [], by simp⟩
      refine ⟨habsent before hfirst hbefore, ?_⟩
      intro stretch hstretch
      exact habsent stretch (hstretch.trans hrest)

end Items

end InterfaceSync.Text
