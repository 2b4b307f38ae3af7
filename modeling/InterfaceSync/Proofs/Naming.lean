import InterfaceSync.Proofs.PlainName

/-!
# Names of one line of ASCII

In a name of ASCII characters other than the line feed every character is a cluster of its own, and the
case mappings send each character to one character.  Then the key of a name tells its words, but for
their case: no word has an underscore in it, so the underscores of the key stand between the words.  The
name of the interface is made of the words and does not depend on their case.

* `clusters_of_isAsciiLine`, `lower_of_isAsciiLine`: clusters and lower case, character by character.
* `loweredWords_eq_of_snake_eq`: names with the same key have the same words in lower case.
* `pascal_eq_flatMap_loweredWords`: the name of the interface is made of these.
* `isAsciiLine_pascal`: it stands on one line.
-/

namespace InterfaceSync

open Text

/-- A text of ASCII characters other than the line feed. -/
def IsAsciiLine (text : List Char) : Prop := ∀ c ∈ text, c.toNat < 128 ∧ c ≠ '\n'

instance (text : List Char) : Decidable (IsAsciiLine text) :=
  List.decidableBAll (fun c : Char => c.toNat < 128 ∧ c ≠ '\n') text

theorem IsAsciiLine.of_cons {c : Char} {text : List Char} (h : IsAsciiLine (c :: text)) :
    (c.toNat < 128 ∧ c ≠ '\n') ∧ IsAsciiLine text :=
  List.forall_mem_cons.1 h

/-! ## Clusters -/

namespace Text

/-- The class of a character of ASCII that stands alone, or an ordinary one. -/
def BreakClass.IsPlain (k : BreakClass) : Prop := k.isControl = true ∨ k = .ordinary

theorem isPlain_ofChar {c : Char} (h : c.toNat < 128) : (BreakClass.ofChar c).IsPlain :=
  BreakClass.ofChar_of_lt h

theorem ofChar_ne_lineFeed {c : Char} (h : c.toNat < 128) (hfeed : c ≠ '\n') :
    BreakClass.ofChar c ≠ .lineFeed := by
  unfold BreakClass.ofChar
  rw [if_neg hfeed, if_pos h]
  split
  · simp
  split
  · simp
  · simp

/-- Of two such characters the second does not belong to the cluster of the first, unless it is a line
feed. -/
theorem joins_eq_false {b : Border} {k : BreakClass} (hb : b.last.IsPlain) (hk : k.IsPlain)
    (hfeed : k ≠ .lineFeed) : b.joins k = false := by
  unfold Border.joins
  have hreturn : (b.last == .carriageReturn && k == .lineFeed) = false := by simp [hfeed]
  rw [hreturn, if_neg Bool.false_ne_true]
  split
  · rfl
  · rename_i hcontrol
    rw [Bool.or_eq_true, not_or] at hcontrol
    obtain rfl := hk.resolve_left hcontrol.2
    have hrun : b.run.goesOn .ordinary = false := by cases b.run <;> rfl
    have hregional : (b.oddRegionals && BreakClass.ordinary == .regional) = false := by simp
    rw [hb.resolve_left hcontrol.1, hrun, hregional]
    rfl

theorem clustersFrom_of_isAsciiLine {border : Border} (hborder : border.last.IsPlain)
    (cluster : List Char) {text : List Char} (h : IsAsciiLine text) :
    clustersFrom border cluster text = cluster.reverse :: text.map fun c => [c] := by
  induction text generalizing border cluster with
  | nil => rfl
  | cons c rest ih =>
    obtain ⟨⟨hascii, hfeed⟩, hrest⟩ := h.of_cons
    have hc := isPlain_ofChar hascii
    have hjoins := joins_eq_false hborder hc (ofChar_ne_lineFeed hascii hfeed)
    rw [clustersFrom, hjoins, if_neg Bool.false_ne_true, ih hc [c] hrest]
    rfl

/-- Every character is a cluster of its own. -/
theorem clusters_of_isAsciiLine {text : List Char} (h : IsAsciiLine text) :
    clusters text = text.map fun c => [c] := by
  cases text with
  | nil => rfl
  | cons c rest =>
    obtain ⟨⟨hascii, -⟩, hrest⟩ := h.of_cons
    rw [clusters, clustersFrom_of_isAsciiLine (isPlain_ofChar hascii) [c] hrest]
    rfl

/-! ## Case -/

theorem lowerAfter_of_isAsciiLine {text : List Char} (h : IsAsciiLine text) (before : List Char) :
    lowerAfter before text = text.map Char.toLower := by
  induction text generalizing before with
  | nil => rfl
  | cons c rest ih =>
    obtain ⟨⟨hascii, -⟩, hrest⟩ := h.of_cons
    have hsigma : c ≠ 'Σ' := of_toNat_lt (P := fun c => c ≠ 'Σ') (by decide) hascii
    rw [lowerAfter, if_neg hsigma, lowerChar_of_lt hascii, ih hrest]
    rfl

/-- Every character is mapped by itself. -/
theorem lower_of_isAsciiLine {text : List Char} (h : IsAsciiLine text) :
    lower text = text.map Char.toLower :=
  lowerAfter_of_isAsciiLine h []

theorem isAsciiLine_map_toLower {text : List Char} (h : IsAsciiLine text) :
    IsAsciiLine (text.map Char.toLower) := by
  intro d hd
  obtain ⟨c, hc, rfl⟩ := List.mem_map.1 hd
  obtain ⟨hascii, hfeed⟩ := h c hc
  exact of_toNat_lt (P := fun c => c ≠ '\n' → c.toLower.toNat < 128 ∧ c.toLower ≠ '\n') (by decide)
    hascii hfeed

end Text

namespace Naming

/-- A capitalised word is made of the characters of the word in upper and lower case. -/
theorem capitalised_cons_of_isAsciiLine {c : Char} {rest : List Char}
    (h : IsAsciiLine (c :: rest)) : capitalised (c :: rest) = c.toUpper :: rest.map Char.toLower := by
  obtain ⟨⟨hascii, -⟩, hrest⟩ := h.of_cons
  rw [capitalised, upperChar_of_lt hascii, lower_of_isAsciiLine hrest]
  rfl

/-- Capitalising does not depend on the case of a word. -/
theorem capitalised_lower {word : List Char} (h : IsAsciiLine word) :
    capitalised (lower word) = capitalised word := by
  cases word with
  | nil => rfl
  | cons c rest =>
    have hlower := isAsciiLine_map_toLower h
    obtain ⟨⟨hascii, -⟩, hrest⟩ := h.of_cons
    have hfirst : c.toLower.toUpper = c.toUpper :=
      of_toNat_lt (P := fun c => c.toLower.toUpper = c.toUpper) (by decide) hascii
    have hagain : (rest.map Char.toLower).map Char.toLower = rest.map Char.toLower := by
      rw [List.map_map]
      refine List.map_congr_left fun d hd => ?_
      exact of_toNat_lt (P := fun d => d.toLower.toLower = d.toLower) (by decide) (hrest d hd).1
    rw [List.map_cons] at hlower
    rw [lower_of_isAsciiLine h, List.map_cons, capitalised_cons_of_isAsciiLine hlower,
      capitalised_cons_of_isAsciiLine h, hfirst, hagain]

theorem isAsciiLine_capitalised {word : List Char} (h : IsAsciiLine word) :
    IsAsciiLine (capitalised word) := by
  cases word with
  | nil => exact h
  | cons c rest =>
    obtain ⟨⟨hascii, hfeed⟩, hrest⟩ := h.of_cons
    rw [capitalised_cons_of_isAsciiLine h]
    refine List.forall_mem_cons.2 ⟨?_, isAsciiLine_map_toLower hrest⟩
    exact of_toNat_lt (P := fun c => c ≠ '\n' → c.toUpper.toNat < 128 ∧ c.toUpper ≠ '\n') (by decide)
      hascii hfeed

/-! ## Words -/

theorem wordsFrom_ne_nil (word clusters : List Cluster) : wordsFrom word clusters ≠ [] := by
  induction clusters generalizing word with
  | nil => simp [wordsFrom]
  | cons g rest ih =>
    rw [wordsFrom]
    split
    · simp
    split
    · simp
    · exact ih _

/-- No word has a separator in it. -/
theorem isSeparator_eq_false_of_mem_wordsFrom {word found clusters : List Cluster}
    (hword : ∀ g ∈ word, isSeparator g = false) (h : found ∈ wordsFrom word clusters) :
    ∀ g ∈ found, isSeparator g = false := by
  induction clusters generalizing word with
  | nil =>
    rw [wordsFrom, List.mem_singleton] at h
    rw [h]
    exact fun g hg => hword g (List.mem_reverse.1 hg)
  | cons first rest ih =>
    have begins : ∀ g ∈ ([] : List Cluster), isSeparator g = false :=
      fun g hg => absurd hg List.not_mem_nil
    rw [wordsFrom] at h
    split at h
    · rcases List.mem_cons.1 h with rfl | h
      · exact fun g hg => hword g (List.mem_reverse.1 hg)
      · exact ih begins h
    · rename_i hfirst
      have goesOn : ∀ g ∈ first :: word, isSeparator g = false :=
        List.forall_mem_cons.2 ⟨Bool.eq_false_iff.2 hfirst, hword⟩
      split at h
      · rcases List.mem_cons.1 h with rfl | h
        · exact fun g hg => goesOn g (List.mem_reverse.1 hg)
        · exact ih begins h
      · exact ih goesOn h

/-- The words of a name in lower case. -/
def loweredWords (name : List Char) : List (List Char) :=
  (words name).map fun w => lower w.flatten

theorem isAsciiLine_flatten_of_mem_words {name : List Char} (h : IsAsciiLine name)
    {word : List Cluster} (hword : word ∈ words name) : IsAsciiLine word.flatten :=
  fun c hc => h c (mem_of_mem_words hword hc)

/-- A word in lower case has no underscore in it. -/
theorem underscore_not_mem_of_mem_loweredWords {name : List Char} (h : IsAsciiLine name)
    {lowered : List Char} (hlowered : lowered ∈ loweredWords name) : '_' ∉ lowered := by
  obtain ⟨word, hword, rfl⟩ := List.mem_map.1 hlowered
  rw [lower_of_isAsciiLine (isAsciiLine_flatten_of_mem_words h hword), List.mem_map]
  rintro ⟨c, hc, hunderscore⟩
  obtain ⟨g, hg, hcg⟩ := List.mem_flatten.1 hc
  -- The character is a cluster of its own, and it is no separator.
  have hcluster : g ∈ name.map fun c => [c] := by
    rw [← clusters_of_isAsciiLine h]
    exact (mem_of_mem_wordsFrom hword hg).resolve_left List.not_mem_nil
  obtain ⟨d, hd, rfl⟩ := List.mem_map.1 hcluster
  obtain rfl := List.mem_singleton.1 hcg
  have hseparator : isSeparator [c] = false :=
    isSeparator_eq_false_of_mem_wordsFrom (fun g hg => absurd hg List.not_mem_nil) hword _ hg
  have hc' : c = '_' :=
    of_toNat_lt (P := fun c => c.toLower = '_' → c = '_') (by decide) (h c hd).1 hunderscore
  rw [hc'] at hseparator
  exact absurd hseparator (by decide)

/-- **Names with the same key have the same words in lower case.** -/
theorem loweredWords_eq_of_snake_eq {a b : String} (ha : IsAsciiLine a.toList)
    (hb : IsAsciiLine b.toList) (h : snake a = snake b) :
    loweredWords a.toList = loweredWords b.toList := by
  have hne : ∀ name, loweredWords name ≠ [] := fun name hnil =>
    wordsFrom_ne_nil _ _ (List.map_eq_nil_iff.1 hnil)
  have hsplit : ∀ {name : String}, IsAsciiLine name.toList →
      (snake name).toList.splitOn '_' = loweredWords name.toList := by
    intro name hname
    rw [snake, String.toList_ofList]
    exact List.splitOn_intercalate '_'
      (fun _ hl => underscore_not_mem_of_mem_loweredWords hname hl) (hne _)
  rw [← hsplit ha, h, hsplit hb]

/-- **The name of the interface is made of the words in lower case.** -/
theorem pascal_eq_flatMap_loweredWords {name : String} (h : IsAsciiLine name.toList) :
    pascal name = String.ofList ((loweredWords name.toList).flatMap capitalised) := by
  rw [pascal, loweredWords, List.flatMap_map]
  refine congrArg String.ofList (List.flatMap_congr fun word hword => ?_)
  rw [capitalised_lower (isAsciiLine_flatten_of_mem_words h hword)]

/-- The name of the interface stands on one line. -/
theorem isAsciiLine_pascal {name : String} (h : IsAsciiLine name.toList) :
    IsAsciiLine (pascal name).toList := by
  intro c hc
  rw [pascal, String.toList_ofList, List.mem_flatMap] at hc
  obtain ⟨word, hword, hc⟩ := hc
  exact isAsciiLine_capitalised (isAsciiLine_flatten_of_mem_words h hword) c hc

end Naming
end InterfaceSync
