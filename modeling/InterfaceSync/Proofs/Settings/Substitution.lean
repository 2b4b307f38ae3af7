import InterfaceSync.Proofs.Settings.Reference

/-!
# References that are filled in

To fill in the references of a text is to put for each one, at its own place, what it stands for
(`simultaneous`).  They are filled in one after the other, though, and each one wherever it is spelled.  So
what was put in for one reference is looked at again for the next one, and so is the text of a reference
that is not filled in yet (`substitute_ne_simultaneous`).

If no reference is spelled beside its own places when its turn comes, then on the way the text is always
the one that was there at first, with the first references filled in (`staysInPlace_iff`), and in the end
it is as if all of them had been filled in at once.

* `partly`, `IsSpelledElsewhere`, `replaceAll_partly_iff`: one reference is filled in.
* `StaysInPlace`, `OwnPlacesOnly`, `substitute_in_place`: all references are filled in.
* `substitute_eq_of_not_opening`: texts in which no reference can be spelled by accident.
-/

namespace InterfaceSync
namespace Reference

variable {env : Environment} {r : Reference} {text : List Char} {cut : List Piece}

/-! ## One reference is filled in -/

/-- What a piece is written as once some references are filled in. -/
def filled (env : Environment) (done : List Reference) : Piece → List Char
  | .char c => [c]
  | .reference r => if r ∈ done then (r.value? env).getD r.text else r.text

/-- The pieces with some references filled in at their own places, and the others as they were. -/
def partly (env : Environment) (done : List Reference) (cut : List Piece) : List Char :=
  cut.flatMap (filled env done)

theorem partly_cons (env : Environment) (done : List Reference) (p : Piece) (cut : List Piece) :
    partly env done (p :: cut) = filled env done p ++ partly env done cut :=
  List.flatMap_cons

/-- If no reference is filled in, the pieces are the text. -/
theorem IsCut.partly_nil (h : IsCut text cut) (env : Environment) : partly env [] cut = text := by
  induction h with
  | nil => rfl
  | reference _ _ ih => rw [partly_cons, ih]; rfl
  | char _ _ ih => rw [partly_cons, ih]; rfl

/-- A reference is spelled in a stretch of the text in which it does not stand, or no longer stands since
it is filled in. -/
def IsSpelledElsewhere (env : Environment) (done : List Reference) (cut : List Piece)
    (r : Reference) : Prop :=
  ∃ stretch, stretch <:+: cut ∧ (.reference r ∈ stretch → r ∈ done) ∧
    r.text <:+: partly env done stretch

/-- **A reference is filled in at its own places** exactly if it is not spelled elsewhere, or stands for
its own text. -/
theorem replaceAll_partly_iff {value : List Char} (h : r.IsWellFormed) (hvalue : r.value? env = some value)
    (done : List Reference) (cut : List Piece) :
    Text.replaceAll r.text value (partly env done cut) = partly env (done ++ [r]) cut ↔
      value = r.text ∨ ¬ IsSpelledElsewhere env done cut r := by
  let own : Piece → Prop := fun p => p = .reference r ∧ r ∉ done
  have owns : ∀ p, own p → filled env done p = r.text ∧ filled env (done ++ [r]) p = value := by
    rintro p ⟨rfl, hr⟩
    simp [filled, hr, hvalue]
  have others : ∀ p, ¬ own p → filled env (done ++ [r]) p = filled env done p := by
    intro p hp
    cases p with
    | char c => rfl
    | reference r' =>
      by_cases heq : r' = r
      · subst heq
        have hr : r' ∈ done := by simpa [own] using hp
        simp [filled, hr]
      · simp [filled, heq]
  rw [partly, partly, Text.replaceAll_flatMap_eq_iff owns others h.endsOnce_text]
  refine or_congr_right ?_
  have hown (stretch : List Piece) :
      (∀ p ∈ stretch, ¬ own p) ↔ (.reference r ∈ stretch → r ∈ done) := by
    constructor
    · intro hnone hmem
      by_contra hr
      exact hnone _ hmem ⟨rfl, hr⟩
    · rintro himp p hp ⟨rfl, hr⟩
      exact hr (himp hp)
  simp only [hown, IsSpelledElsewhere, not_exists, not_and, partly]

/-! ## All references are filled in -/

/-- Whether there is nothing to be put in for a reference. -/
def standsForNothing (env : Environment) (r : Reference) : Bool := (r.value? env).isNone

/-- What the references stand for is put in at once, each at its own place. -/
def simultaneous (env : Environment) : List Piece → Except Reference (List Char)
  | [] => .ok []
  | .char c :: cut => (simultaneous env cut).map ([c] ++ ·)
  | .reference r :: cut =>
    match r.value? env with
    | some value => (simultaneous env cut).map (value ++ ·)
    | none => .error r

/-- Filling in fails at the first reference that stands for nothing. -/
theorem fill_eq_error_iff {list : List Reference} :
    fill env list text = .error r ↔ list.find? (standsForNothing env) = some r := by
  induction list generalizing text with
  | nil => simp [fill]
  | cons r' list ih =>
    rw [fill, List.find?_cons, standsForNothing]
    cases hvalue : r'.value? env with
    | none => simp
    | some value => simpa using ih

theorem simultaneous_eq_error_iff :
    simultaneous env cut = .error r ↔ (references cut).find? (standsForNothing env) = some r := by
  have hmap {x : Except Reference (List Char)} {f : List Char → List Char} :
      x.map f = .error r ↔ x = .error r := by
    cases x <;> simp [Except.map]
  induction cut with
  | nil => simp [simultaneous]
  | cons p cut ih =>
    cases p with
    | char c =>
      rw [simultaneous, references_char]
      exact hmap.trans ih
    | reference r' =>
      rw [simultaneous, references_reference, List.find?_cons, standsForNothing]
      cases hvalue : r'.value? env with
      | none => simp
      | some value => simpa [hmap] using ih

theorem exists_eq_ok_iff {x : Except Reference (List Char)} {list : List Reference}
    (herror : ∀ r, x = .error r ↔ list.find? (standsForNothing env) = some r) :
    (∃ result, x = .ok result) ↔ ∀ r ∈ list, standsForNothing env r = false := by
  cases x with
  | ok result =>
    have hnone : list.find? (standsForNothing env) = none := by
      rw [Option.eq_none_iff_forall_ne_some]
      intro r hr
      exact absurd ((herror r).2 hr) (by simp)
    simpa using hnone
  | error r =>
    have hsome := (herror r).1 rfl
    have hr := List.find?_some hsome
    simp only [reduceCtorEq, exists_const, false_iff]
    intro hset
    rw [hset r (List.mem_of_find?_eq_some hsome)] at hr
    simp at hr

theorem exists_fill_eq_ok_iff {list : List Reference} (text : List Char) :
    (∃ result, fill env list text = .ok result) ↔ ∀ r ∈ list, standsForNothing env r = false :=
  exists_eq_ok_iff fun _ => fill_eq_error_iff

theorem exists_simultaneous_eq_ok_iff : (∃ result, simultaneous env cut = .ok result) ↔
    ∀ r ∈ references cut, standsForNothing env r = false :=
  exists_eq_ok_iff fun _ => simultaneous_eq_error_iff

/-- If all references are filled in, the pieces are written with what they stand for. -/
theorem simultaneous_eq_ok {done : List Reference}
    (hset : ∀ r ∈ references cut, r ∈ done ∧ standsForNothing env r = false) :
    simultaneous env cut = .ok (partly env done cut) := by
  induction cut with
  | nil => rfl
  | cons p cut ih =>
    cases p with
    | char c => rw [simultaneous, ih hset, partly_cons]; rfl
    | reference r =>
      rw [references_reference, List.forall_mem_cons] at hset
      obtain ⟨⟨hdone, hr⟩, hrest⟩ := hset
      obtain ⟨value, hvalue⟩ : ∃ value, r.value? env = some value := by
        rwa [standsForNothing, Option.isNone_eq_false_iff, Option.isSome_iff_exists] at hr
      rw [simultaneous, ih hrest, partly_cons]
      simp [filled, hdone, hvalue, Except.map]

theorem fill_append (env : Environment) (list more : List Reference) (text : List Char) :
    fill env (list ++ more) text = (fill env list text).bind (fill env more) := by
  induction list generalizing text with
  | nil => rfl
  | cons r list ih =>
    rw [List.cons_append, fill, fill]
    cases r.value? env with
    | none => rfl
    | some value => exact ih _

theorem fill_singleton {value : List Char} (hvalue : r.value? env = some value) (text : List Char) :
    fill env [r] text = .ok (Text.replaceAll r.text value text) := by
  rw [fill, hvalue]
  rfl

/-- What was put in stays as it is: on the way the text is the one that was there at first, with the
first references filled in at their own places. -/
def StaysInPlace (env : Environment) (text : List Char) : Prop :=
  ∀ done rest result, all text = done ++ rest → fill env done text = .ok result →
    result = partly env done (pieces text)

/-- When the turn of a reference comes, it is spelled at its own places only, or stands for its own
text. -/
def OwnPlacesOnly (env : Environment) (text : List Char) : Prop :=
  ∀ done r rest value, all text = done ++ r :: rest →
    (∀ r' ∈ done, standsForNothing env r' = false) → r.value? env = some value →
      value = r.text ∨ ¬ IsSpelledElsewhere env done (pieces text) r

/-- **What was put in stays as it is** exactly if each reference is spelled at its own places only. -/
theorem staysInPlace_iff : StaysInPlace env text ↔ OwnPlacesOnly env text := by
  have hwell {done rest : List Reference} {r : Reference} (hall : all text = done ++ r :: rest) :
      r.IsWellFormed := by
    refine (isCut_pieces text).isWellFormed (mem_references.1 ?_)
    rw [← (isCut_pieces text).all_eq, hall]
    simp
  constructor
  · intro stays done r rest value hall hset hvalue
    obtain ⟨before, hbefore⟩ := (exists_fill_eq_ok_iff text).2 hset
    have hafter : fill env (done ++ [r]) text = .ok (Text.replaceAll r.text value before) := by
      rw [fill_append, hbefore]
      exact fill_singleton hvalue before
    have hpartly := stays (done ++ [r]) rest _ (by rw [hall]; simp) hafter
    rw [stays done (r :: rest) before hall hbefore, replaceAll_partly_iff (hwell hall) hvalue] at hpartly
    exact hpartly
  · intro hplaces done
    -- The reference that is filled in last is the one at the end.
    induction done using List.reverseRecOn with
    | nil =>
      intro rest result _ hfill
      rw [(isCut_pieces text).partly_nil]
      exact (Except.ok.inj hfill).symm
    | append_singleton done r ih =>
      intro rest result hall hfill
      rw [List.append_assoc, List.singleton_append] at hall
      have hset := (exists_fill_eq_ok_iff text).1 ⟨result, hfill⟩
      simp only [List.forall_mem_append, List.forall_mem_singleton] at hset
      obtain ⟨before, hbefore⟩ := (exists_fill_eq_ok_iff text).2 hset.1
      obtain ⟨value, hvalue⟩ : ∃ value, r.value? env = some value := by
        have hr := hset.2
        rwa [standsForNothing, Option.isNone_eq_false_iff, Option.isSome_iff_exists] at hr
      rw [fill_append, hbefore] at hfill
      have hresult := (fill_singleton hvalue before).symm.trans hfill
      rw [← Except.ok.inj hresult, ih (r :: rest) before hall hbefore]
      exact (replaceAll_partly_iff (hwell hall) hvalue done _).2
        (hplaces done r rest value hall hset.1 hvalue)

theorem StaysInPlace.substitute_eq (stays : StaysInPlace env text) :
    substitute env text = simultaneous env (pieces text) := by
  have hall := (isCut_pieces text).all_eq
  cases hfill : fill env (all text) text with
  | error r =>
    rw [substitute, hfill]
    rw [fill_eq_error_iff, hall] at hfill
    exact (simultaneous_eq_error_iff.2 hfill).symm
  | ok result =>
    have hset := (exists_fill_eq_ok_iff text).1 ⟨result, hfill⟩
    rw [substitute, hfill, stays (all text) [] result (List.append_nil _).symm hfill]
    symm
    apply simultaneous_eq_ok
    intro r hr
    rw [← hall] at hr
    exact ⟨hr, hset r hr⟩

/-- **References are filled in as if it were done at once**, if each one is spelled at its own places only
when its turn comes.  If not, then something that was put in, or the text of a reference that is not filled
in yet, does not stay as it is. -/
theorem substitute_in_place (env : Environment) (text : List Char) :
    (∀ cut, IsCut text cut ↔ cut = pieces text) ∧
      (OwnPlacesOnly env text → substitute env text = simultaneous env (pieces text)) ∧
      (StaysInPlace env text ↔ OwnPlacesOnly env text) := by
  refine ⟨fun cut => isCut_iff, ?_, staysInPlace_iff⟩
  intro places
  have stays : StaysInPlace env text := staysInPlace_iff.2 places
  exact stays.substitute_eq

/-- What was put in for the first reference is filled in again for the second one. -/
theorem substitute_ne_simultaneous :
    let env : Environment := ⟨[("A", "$\x7bB\x7d"), ("B", "x")]⟩
    let text := "$\x7bA\x7d/$\x7bB\x7d".toList
    simultaneous env (pieces text) = .ok "$\x7bB\x7d/x".toList ∧
      substitute env text = .ok "x/x".toList := by
  decide +kernel

/-! ## Texts that spell no reference -/

/-- How a reference begins. -/
def opening : List Char := ['$', '\x7b']

theorem opening_prefix_text (r : Reference) : opening <+: r.text := by
  rw [text_eq]
  exact ⟨r.body ++ ['\x7d'], rfl⟩

/-- A reference that begins inside another one begins between its braces. -/
theorem opening_infix_body {front tail : List Char} (hfront : front ≠ []) (htext : r.text = front ++ tail)
    (h : opening <+: tail) : opening <:+: r.body := by
  obtain ⟨d, front, rfl⟩ := List.exists_cons_of_ne_nil hfront
  rw [text_eq, List.cons_append, List.cons_append, List.cons_append, List.cons.injEq] at htext
  have hwithin : opening <:+: '\x7b' :: (r.body ++ ['\x7d']) := by
    rw [htext.2]
    exact List.infix_append_of_infix_right h.isInfix
  rcases List.infix_cons_iff.1 hwithin with hprefix | hwithin
  · simp [opening] at hprefix
  · rcases List.infix_concat_iff.1 hwithin with ⟨front, hlast⟩ | hwithin
    · have hbrace := congrArg List.getLast? hlast
      simp [opening] at hbrace
    · exact hwithin

/-- A place in two texts begins in the second one, or it has its first character in the first one. -/
theorem infix_append_cases {place first second : List Char} (hne : place ≠ [])
    (h : place <:+: first ++ second) : place <:+: second ∨
      ∃ front tail, first = front ++ tail ∧ tail ≠ [] ∧ place <+: tail ++ second := by
  rcases List.infix_append_iff.1 h with ⟨front, back, rfl⟩ | hsecond | ⟨begun, ended, rfl, hbegun, hended⟩
  · refine .inr ⟨front, place ++ back, List.append_assoc .., by simp [hne], ?_⟩
    rw [List.append_assoc]
    exact List.prefix_append place _
  · exact .inl hsecond
  · by_cases hbegan : begun = []
    · rw [hbegan]
      exact .inl hended.isInfix
    · obtain ⟨front, rfl⟩ := hbegun
      exact .inr ⟨front, begun, rfl, hbegan, (List.prefix_append_right_inj begun).2 hended⟩

section Openings

variable {done final : List Reference}

/-- What is written for a piece is final unless it is a reference that is not filled in yet. -/
theorem filled_eq_or (hsub : done ⊆ final) (env : Environment) (p : Piece) :
    filled env done p = filled env final p ∨ ∃ r, p = .reference r ∧ r ∉ done := by
  cases p with
  | char c => exact .inl rfl
  | reference r =>
    by_cases hr : r ∈ done
    · left
      simp [filled, hr, hsub hr]
    · exact .inr ⟨r, rfl, hr⟩

/-- A brace that follows on what was put in follows on it also in the end. -/
theorem head?_partly (hsub : done ⊆ final) (h : (partly env done cut).head? = some '\x7b') :
    (partly env final cut).head? = some '\x7b' := by
  induction cut with
  | nil => exact h
  | cons p cut ih =>
    rw [partly_cons] at h ⊢
    rcases filled_eq_or hsub env p with hsame | ⟨r, rfl, hr⟩
    · rw [← hsame]
      cases hp : filled env done p with
      | nil =>
        rw [hp] at h
        exact ih h
      | cons c rest =>
        rw [hp] at h
        exact h
    · rw [filled, if_neg hr, text_eq] at h
      simp at h

theorem opening_prefix_partly (hsub : done ⊆ final) {tail : List Char} (hne : tail ≠ [])
    (h : opening <+: tail ++ partly env done cut) : opening <+: tail ++ partly env final cut := by
  obtain ⟨c, rest, rfl⟩ := List.exists_cons_of_ne_nil hne
  rw [opening, List.cons_append, List.cons_prefix_cons] at h ⊢
  refine ⟨h.1, ?_⟩
  cases rest with
  | nil =>
    obtain ⟨behind, hbehind⟩ := h.2
    have hhead : (partly env done cut).head? = some '\x7b' := by
      rw [List.nil_append] at hbehind
      rw [← hbehind]
      rfl
    obtain ⟨behind', hbehind'⟩ := List.head?_eq_some_iff.1 (head?_partly hsub hhead)
    exact ⟨behind', hbehind'.symm⟩
  | cons d rest => simpa using h.2

theorem exists_opening (hsub : done ⊆ final) (hr : r.IsWellFormed)
    (hcut : ∀ r', .reference r' ∈ cut → r'.IsWellFormed) (hdone : .reference r ∈ cut → r ∈ done)
    (hplace : r.text <:+: partly env done cut) :
    opening <:+: partly env final cut ∨ ∃ r', .reference r' ∈ cut ∧ opening <:+: r'.body := by
  have hne : r.text ≠ [] := hr.endsOnce_text.ne_nil
  induction cut with
  | nil => exact absurd (List.infix_nil.1 hplace) hne
  | cons p cut ih =>
    rw [partly_cons] at hplace ⊢
    rcases infix_append_cases hne hplace with hplace | ⟨front, tail, hfilled, htail, hbegins⟩
    · rcases ih (fun r' hr' => hcut r' (List.mem_cons_of_mem p hr'))
        (fun hmem => hdone (List.mem_cons_of_mem p hmem)) hplace with hwithin | ⟨r', hr', hbody⟩
      · exact .inl (List.infix_append_of_infix_right hwithin)
      · exact .inr ⟨r', List.mem_cons_of_mem p hr', hbody⟩
    · have hopening := (opening_prefix_text r).trans hbegins
      rcases filled_eq_or hsub env p with hsame | ⟨r', rfl, hr'⟩
      · left
        rw [← hsame, hfilled, List.append_assoc]
        exact List.infix_append_of_infix_right (opening_prefix_partly hsub htail hopening).isInfix
      · -- the reference begins in the text of another one, and not at its front
        rw [filled, if_neg hr'] at hfilled
        have hfront : front ≠ [] := by
          rintro rfl
          rw [List.nil_append] at hfilled
          rw [← hfilled] at hbegins
          have hread := atFront?_text_append (hcut r' List.mem_cons_self) (partly env done cut)
          rw [atFront?_eq_some_iff.2 ⟨hr, hbegins⟩] at hread
          obtain rfl := Option.some.inj hread
          exact hr' (hdone List.mem_cons_self)
        have hlength : opening.length ≤ tail.length := by
          obtain ⟨c, rest, rfl⟩ := List.exists_cons_of_ne_nil htail
          cases rest with
          | nil =>
            have hlast := congrArg List.getLast? hfilled
            rw [text_eq, List.getLast?_concat, List.getLast?_concat] at hlast
            obtain rfl := Option.some.inj hlast
            simp [opening] at hopening
          | cons d rest => simp [opening]
        have hprefix := List.prefix_of_prefix_length_le hopening (List.prefix_append tail _) hlength
        exact .inr ⟨r', List.mem_cons_self, opening_infix_body hfront hfilled hprefix⟩

end Openings

/-- **If no reference begins inside another one and none in what comes out, then nothing is filled in
twice.** -/
theorem substitute_eq_of_not_opening {result : List Char}
    (inside : ∀ r ∈ all text, ¬ opening <:+: r.body)
    (hresult : simultaneous env (pieces text) = .ok result) (outside : ¬ opening <:+: result) :
    substitute env text = .ok result := by
  have isCut := isCut_pieces text
  have hset : ∀ r ∈ references (pieces text),
      r ∈ all text ∧ standsForNothing env r = false := by
    intro r hr
    rw [isCut.all_eq]
    exact ⟨hr, exists_simultaneous_eq_ok_iff.1 ⟨result, hresult⟩ r hr⟩
  have hpartly : result = partly env (all text) (pieces text) := by
    rw [simultaneous_eq_ok hset] at hresult
    exact (Except.ok.inj hresult).symm
  have stays : StaysInPlace env text := by
    rw [staysInPlace_iff]
    intro done r rest value hall _ _
    right
    rintro ⟨stretch, hstretch, hdone, hplace⟩
    have hmem {r' : Reference} (hr' : .reference r' ∈ stretch) : .reference r' ∈ pieces text :=
      hstretch.subset hr'
    have hsub : done ⊆ all text := by
      rw [hall]
      exact List.subset_append_left done _
    have hr : r ∈ all text := by
      rw [hall]
      simp
    rw [isCut.all_eq, mem_references] at hr
    rcases exists_opening hsub (isCut.isWellFormed hr) (fun r' hr' => isCut.isWellFormed (hmem hr'))
      hdone hplace with hwithin | ⟨r', hr', hbody⟩
    · rw [hpartly] at outside
      exact outside (hwithin.trans (hstretch.flatMap _))
    · refine inside r' ?_ hbody
      rw [isCut.all_eq, mem_references]
      exact hmem hr'
  rw [stays.substitute_eq, hresult]

end Reference
end InterfaceSync
