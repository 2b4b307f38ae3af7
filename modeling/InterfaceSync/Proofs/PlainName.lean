import InterfaceSync.Attribute
import InterfaceSync.Naming
import InterfaceSync.Proofs.Spans

/-!
# Plain names

A name is plain if it is made of ASCII letters, digits and underscores.  The interface of a plain name
has a plain name as well: the words of a name are stretches of it, and the case mappings send plain
characters to plain characters.

* `of_isNameChar`: what holds of the plain characters of ASCII holds of all plain characters.
* `IsFieldName`: the names of fields.
* `isPlain_pascal`: the name of the interface.
-/

namespace InterfaceSync

open Text

/-! ## Plain characters -/

/-- What can be checked on the plain characters of ASCII holds of all plain characters, since there are
no others. -/
theorem of_isNameChar {P : Char → Prop}
    (ascii : ∀ n < 128, Attribute.isNameChar (Char.ofNat n) = true → P (Char.ofNat n)) {c : Char}
    (h : Attribute.isNameChar c = true) : P c := by
  have hlt : c.toNat < 128 := by
    rcases Bool.or_eq_true_iff.1 h with halphanum | hunderscore
    · rcases Bool.or_eq_true_iff.1 halphanum with halpha | hdigit
      · exact toNat_lt_of_isAlpha halpha
      · exact toNat_lt_of_isDigit hdigit
    · rw [eq_of_beq hunderscore]
      decide
  exact of_toNat_lt (P := fun c => Attribute.isNameChar c = true → P c) ascii hlt h

theorem Attribute.isBlank_eq_false_of_isNameChar {c : Char} (h : isNameChar c = true) :
    isBlank c = false :=
  of_isNameChar (P := fun c => isBlank c = false) (by decide) h

/-- A text of ASCII letters, digits and underscores. -/
def IsPlain (text : List Char) : Prop := ∀ c ∈ text, Attribute.isNameChar c = true

instance (text : List Char) : Decidable (IsPlain text) :=
  List.decidableBAll (fun c => Attribute.isNameChar c = true) text

theorem isPlain_nil : IsPlain [] := by
  intro c hc
  simp at hc

theorem IsPlain.append {text more : List Char} (h : IsPlain text) (hmore : IsPlain more) :
    IsPlain (text ++ more) :=
  List.forall_mem_append.2 ⟨h, hmore⟩

theorem IsPlain.of_cons {c : Char} {text : List Char} (h : IsPlain (c :: text)) :
    Attribute.isNameChar c = true ∧ IsPlain text :=
  List.forall_mem_cons.1 h

/-- A plain text has no character that is not plain. -/
theorem IsPlain.not_mem {c : Char} {text : List Char} (h : IsPlain text)
    (hc : Attribute.isNameChar c = false) : c ∉ text := by
  intro hmem
  rw [h c hmem] at hc
  simp at hc

/-! ## Names of fields -/

/-- A name of a field: plain, and not beginning with a digit. -/
def IsFieldName (name : List Char) : Prop :=
  ∃ c rest, name = c :: rest ∧ Attribute.isNameStart c = true ∧ IsPlain rest

theorem isNameChar_of_isNameStart {c : Char} (h : Attribute.isNameStart c = true) :
    Attribute.isNameChar c = true := by
  rcases Bool.or_eq_true_iff.1 h with halpha | hunderscore
  · exact Bool.or_eq_true_iff.2 (.inl (Bool.or_eq_true_iff.2 (.inl halpha)))
  · exact Bool.or_eq_true_iff.2 (.inr hunderscore)

theorem IsFieldName.isPlain {name : List Char} (h : IsFieldName name) : IsPlain name := by
  obtain ⟨c, rest, rfl, hc, hrest⟩ := h
  exact List.forall_mem_cons.2 ⟨isNameChar_of_isNameStart hc, hrest⟩

theorem IsFieldName.append {name more : List Char} (h : IsFieldName name) (hmore : IsPlain more) :
    IsFieldName (name ++ more) := by
  obtain ⟨c, rest, rfl, hc, hrest⟩ := h
  exact ⟨c, rest ++ more, rfl, hc, hrest.append hmore⟩

/-! ## Case -/

theorem isPlain_upperChar {c : Char} (h : Attribute.isNameChar c = true) : IsPlain (upperChar c) := by
  have hupper := of_isNameChar
    (P := fun c => c.toNat < 128 ∧ Attribute.isNameChar c.toUpper = true) (by decide) h
  rw [upperChar_of_lt hupper.1]
  exact List.forall_mem_singleton.2 hupper.2

theorem isPlain_lowerChar {c : Char} (h : Attribute.isNameChar c = true) : IsPlain (lowerChar c) := by
  have hlower := of_isNameChar
    (P := fun c => c.toNat < 128 ∧ Attribute.isNameChar c.toLower = true) (by decide) h
  rw [lowerChar_of_lt hlower.1]
  exact List.forall_mem_singleton.2 hlower.2

/-- A plain text stays plain in lower case; a capital sigma is not plain. -/
theorem isPlain_lowerAfter {text : List Char} (h : IsPlain text) (before : List Char) :
    IsPlain (lowerAfter before text) := by
  induction text generalizing before with
  | nil => exact isPlain_nil
  | cons c rest ih =>
    obtain ⟨hc, hrest⟩ := h.of_cons
    have hsigma : c ≠ 'Σ' := of_isNameChar (P := fun c => c ≠ 'Σ') (by decide) hc
    rw [lowerAfter, if_neg hsigma]
    exact (isPlain_lowerChar hc).append (ih hrest _)

theorem isPlain_capitalised {word : List Char} (h : IsPlain word) :
    IsPlain (Naming.capitalised word) := by
  cases word with
  | nil => exact isPlain_nil
  | cons c rest =>
    obtain ⟨hc, hrest⟩ := h.of_cons
    exact (isPlain_upperChar hc).append (isPlain_lowerAfter hrest [])

/-! ## Words -/

namespace Naming

/-- The words of a name are made of its clusters. -/
theorem mem_of_mem_wordsFrom {word found : List Cluster} {clusters : List Cluster}
    (h : found ∈ wordsFrom word clusters) {g : Cluster} (hg : g ∈ found) :
    g ∈ word ∨ g ∈ clusters := by
  induction clusters generalizing word with
  | nil =>
    rw [wordsFrom, List.mem_singleton] at h
    rw [h, List.mem_reverse] at hg
    exact .inl hg
  | cons first rest ih =>
    have goesOn : ∀ {word' : List Cluster}, found ∈ wordsFrom word' rest →
        (g ∈ word' → g ∈ word ∨ g = first) → g ∈ word ∨ g ∈ first :: rest := by
      intro word' hfound hword
      rcases ih hfound with hg | hg
      · rcases hword hg with hg | rfl
        · exact .inl hg
        · exact .inr List.mem_cons_self
      · exact .inr (List.mem_cons_of_mem _ hg)
    have begins : g ∈ [] → g ∈ word ∨ g = first := fun hnil => absurd hnil List.not_mem_nil
    rw [wordsFrom] at h
    split at h
    · rcases List.mem_cons.1 h with rfl | h
      · exact .inl (List.mem_reverse.1 hg)
      · exact goesOn h begins
    split at h
    · rcases List.mem_cons.1 h with rfl | h
      · rw [List.mem_reverse, List.mem_cons] at hg
        rcases hg with rfl | hg
        · exact .inr List.mem_cons_self
        · exact .inl hg
      · exact goesOn h begins
    · exact goesOn h fun hg => (List.mem_cons.1 hg).symm

/-- The characters of the words of a name are characters of the name. -/
theorem mem_of_mem_words {name : List Char} {word : List Cluster} (h : word ∈ words name) {c : Char}
    (hc : c ∈ word.flatten) : c ∈ name := by
  obtain ⟨g, hg, hcg⟩ := List.mem_flatten.1 hc
  rw [← flatten_clusters name, List.mem_flatten]
  rcases mem_of_mem_wordsFrom h hg with hnil | hcluster
  · exact absurd hnil List.not_mem_nil
  · exact ⟨g, hcluster, hcg⟩

/-- **The interface of a plain name has a plain name.** -/
theorem isPlain_pascal {name : String} (h : IsPlain name.toList) : IsPlain (pascal name).toList := by
  intro c hc
  rw [pascal, String.toList_ofList, List.mem_flatMap] at hc
  obtain ⟨word, hword, hc⟩ := hc
  exact isPlain_capitalised (fun d hd => h d (mem_of_mem_words hword hd)) c hc

end Naming
end InterfaceSync
