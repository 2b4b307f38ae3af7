import InterfaceSync.Proofs.Naming
import Mathlib.Data.List.SplitBy

/-!
# The words that show in the name of an interface

The name of an interface is made of the words of a name, without anything between them.  That a word
ends shows there if the next one begins with a letter, which is then a capital, or with a digit behind a
letter.  Where it does not show, two words look like one: `item_1_2` and `item_12` have the same
interface.  A word without characters does not show at all: neither do the two underscores of
`blog__post`.

In names of ASCII nothing else is lost.  Cut at its seams and put into lower case, the name of the
interface gives the words that show, and so two names have the same interface exactly when the same words
show.

* `visibleWords`: the words that show.
* `readBack`, `IsLegible`: reading the name of an interface back.
* `isWord_of_mem_loweredWords`: there is no seam within a word.
* `flatMap_capitalised_visibleWords`: the words that show make up the name of the interface.
* `readBack_pascal`, `pascal_eq_iff`: what is read off the name of an interface.
-/

namespace InterfaceSync.Naming

open Text

/-! ## Words that show -/

/-- Whether the end of a word shows in front of the next one. -/
def showsEnd (word next : List Char) : Bool :=
  next.head?.any fun d => d.isAlpha || (d.isDigit && word.getLast?.any Char.isAlpha)

/-- Puts a word in front of others, and joins it to the first of them if its end does not show. -/
def attach (word : List Char) : List (List Char) → List (List Char)
  | [] => [word]
  | next :: found => if showsEnd word next then word :: next :: found else (word ++ next) :: found

/-- The words that show: words without characters are dropped, and words are joined where an end does
not show. -/
def visibleWords (words : List (List Char)) : List (List Char) :=
  (words.filter fun word => word ≠ []).foldr attach []

theorem visibleWords_cons {word : List Char} (h : word ≠ []) (rest : List (List Char)) :
    visibleWords (word :: rest) = attach word (visibleWords rest) := by
  rw [visibleWords, List.filter_cons, if_pos (decide_eq_true h), List.foldr_cons, visibleWords]

/-- Words that all show. -/
def AllShow (words : List (List Char)) : Prop :=
  [] ∉ words ∧ words.IsChain fun word next => showsEnd word next = true

theorem visibleWords_of_allShow {words : List (List Char)} (h : AllShow words) :
    visibleWords words = words := by
  induction words with
  | nil => rfl
  | cons word rest ih =>
    obtain ⟨hne, hchain⟩ := h
    rw [List.mem_cons, not_or] at hne
    rw [List.isChain_cons] at hchain
    rw [visibleWords_cons (Ne.symm hne.1), ih ⟨hne.2, hchain.2⟩]
    cases rest with
    | nil => rfl
    | cons next found => rw [attach, if_pos (hchain.1 next rfl)]

/-! ## Reading the name of an interface back -/

/-- A letter that is not in lower case. -/
def isCapital (c : Char) : Bool := lowerChar c != [c]

/-- Whether the name of an interface is cut between two characters. -/
def isSeam (c d : Char) : Bool := isCapital d || (d.isDigit && isCased c)

/-- The words that are read off the name of an interface, in lower case. -/
def readBack (interfaceName : List Char) : List (List Char) :=
  (interfaceName.splitBy fun c d => !isSeam c d).map lower

/-- A name that its interface tells: its words are read off the name of the interface. -/
def IsLegible (name : String) : Prop :=
  readBack (pascal name).toList = loweredWords name.toList

/-- **Two legible names with one interface have the same key.** -/
theorem snake_eq_of_isLegible {a b : String} (ha : IsLegible a) (hb : IsLegible b)
    (h : pascal a = pascal b) : snake a = snake b := by
  have hwords : loweredWords a.toList = loweredWords b.toList := by rw [← ha, h, hb]
  rw [snake, ← loweredWords, hwords, loweredWords, ← snake]

/-- A word in lower case, as names have them: there is no seam in it. -/
structure IsWord (word : List Char) : Prop where
  ne_nil : word ≠ []
  isAsciiLine : IsAsciiLine word
  isLower : ∀ c ∈ word, c.toLower = c
  isChain : word.IsChain fun c d => isSeam c d = false

/-! ## Seams between characters of ASCII -/

theorem isSeam_of_lt {c d : Char} (hc : c.toNat < 128) (hd : d.toNat < 128) :
    isSeam c d = (d.isUpper || (d.isDigit && c.isAlpha)) := by
  have hcased : isCased c = c.isAlpha := if_pos hc
  have hcapital : ([d.toLower] != [d]) = d.isUpper :=
    of_toNat_lt (P := fun d => ([d.toLower] != [d]) = d.isUpper) (by decide) hd
  rw [isSeam, isCapital, lowerChar_of_lt hd, hcased, hcapital]

theorem isSeam_of_toLower_eq {c d : Char} (hc : c.toNat < 128) (hd : d.toNat < 128)
    (h : d.toLower = d) : isSeam c d = (d.isDigit && c.isAlpha) := by
  have hupper : d.isUpper = false :=
    of_toNat_lt (P := fun d => d.toLower = d → d.isUpper = false) (by decide) hd h
  rw [isSeam_of_lt hc hd, hupper, Bool.false_or]

/-- A character in upper case makes a seam if it is a letter, or a digit behind a letter. -/
theorem isSeam_toUpper {c d : Char} (hc : c.toNat < 128) (hd : d.toNat < 128) :
    isSeam c d.toUpper = (d.isAlpha || (d.isDigit && c.isAlpha)) := by
  have hupper : d.toUpper.toNat < 128 ∧ d.toUpper.isUpper = d.isAlpha ∧
      d.toUpper.isDigit = d.isDigit :=
    of_toNat_lt (P := fun d => d.toUpper.toNat < 128 ∧ d.toUpper.isUpper = d.isAlpha ∧
      d.toUpper.isDigit = d.isDigit) (by decide) hd
  rw [isSeam_of_lt hc hupper.1, hupper.2.1, hupper.2.2]

theorem isSeam_toUpper_left {c d : Char} (hc : c.toNat < 128) (hd : d.toNat < 128) :
    isSeam c.toUpper d = isSeam c d := by
  have hupper : c.toUpper.toNat < 128 ∧ c.toUpper.isAlpha = c.isAlpha :=
    of_toNat_lt (P := fun c => c.toUpper.toNat < 128 ∧ c.toUpper.isAlpha = c.isAlpha) (by decide) hc
  rw [isSeam_of_lt hupper.1 hd, isSeam_of_lt hc hd, hupper.2]

/-! ## Words in lower case -/

namespace IsWord

variable {word next : List Char}

/-- A word as the name of an interface has it: its first character in upper case. -/
theorem exists_capitalised_eq (h : IsWord word) :
    ∃ c rest, word = c :: rest ∧ c.toNat < 128 ∧ capitalised word = c.toUpper :: rest := by
  obtain ⟨c, rest, rfl⟩ := List.exists_cons_of_ne_nil h.ne_nil
  have hrest : rest.map Char.toLower = rest :=
    (List.map_congr_left fun d hd => h.isLower d (List.mem_cons_of_mem c hd)).trans rest.map_id'
  refine ⟨c, rest, rfl, (h.isAsciiLine c List.mem_cons_self).1, ?_⟩
  rw [capitalised_cons_of_isAsciiLine h.isAsciiLine, hrest]

/-- A capitalised word in lower case is the word again. -/
theorem lower_capitalised (h : IsWord word) : lower (capitalised word) = word := by
  have hword : word.map Char.toLower = word := (List.map_congr_left h.isLower).trans word.map_id'
  rw [← capitalised_lower h.isAsciiLine, lower_of_isAsciiLine h.isAsciiLine, hword]
  obtain ⟨c, rest, rfl, hascii, heq⟩ := h.exists_capitalised_eq
  have hfirst : c.toUpper.toLower = c.toLower :=
    of_toNat_lt (P := fun c => c.toUpper.toLower = c.toLower) (by decide) hascii
  rw [lower_of_isAsciiLine (isAsciiLine_capitalised h.isAsciiLine), heq, List.map_cons, hfirst,
    ← List.map_cons, hword]

/-- There is no seam in a capitalised word. -/
theorem isChain_capitalised (h : IsWord word) :
    (capitalised word).IsChain fun c d => (!isSeam c d) = true := by
  have hchain : word.IsChain fun c d => (!isSeam c d) = true :=
    h.isChain.imp fun c d hcd => by rw [hcd]; rfl
  obtain ⟨c, rest, rfl, hascii, heq⟩ := h.exists_capitalised_eq
  rw [List.isChain_cons] at hchain
  rw [heq, List.isChain_cons]
  refine ⟨fun d hd => ?_, hchain.2⟩
  have hd' := (h.isAsciiLine d (List.mem_cons_of_mem c (List.mem_of_mem_head? hd))).1
  rw [isSeam_toUpper_left hascii hd']
  exact hchain.1 d hd

/-- A capitalised word ends in a letter exactly when the word does. -/
theorem isAlpha_of_mem_getLast? (h : IsWord word) {x : Char} (hx : x ∈ (capitalised word).getLast?) :
    x.isAlpha = word.getLast?.any Char.isAlpha := by
  obtain ⟨c, rest, rfl, hascii, heq⟩ := h.exists_capitalised_eq
  have hc : c.toUpper.isAlpha = c.isAlpha :=
    of_toNat_lt (P := fun c => c.toUpper.isAlpha = c.isAlpha) (by decide) hascii
  rw [heq, List.getLast?_cons] at hx
  rw [List.getLast?_cons]
  obtain rfl := Option.some.inj hx
  cases rest.getLast? with
  | none => exact hc
  | some l => rfl

/-- **The end of a word shows** exactly where there is a seam between the capitalised words. -/
theorem isSeam_eq_showsEnd (h : IsWord word) (hnext : IsWord next) {x y : Char}
    (hx : x ∈ (capitalised word).getLast?) (hy : y ∈ (capitalised next).head?) :
    isSeam x y = showsEnd word next := by
  obtain ⟨d, rest, rfl, hascii, heq⟩ := hnext.exists_capitalised_eq
  rw [heq] at hy
  obtain rfl := Option.some.inj hy
  have hx' := (isAsciiLine_capitalised h.isAsciiLine x (List.mem_of_mem_getLast? hx)).1
  rw [isSeam_toUpper hx' hascii, h.isAlpha_of_mem_getLast? hx]
  rfl

/-! ## Two words joined -/

/-- A word whose end does not show goes on without a seam. -/
theorem append (h : IsWord word) (hnext : IsWord next) (hjoin : showsEnd word next = false) :
    IsWord (word ++ next) where
  ne_nil := List.append_ne_nil_of_left_ne_nil h.ne_nil next
  isAsciiLine := List.forall_mem_append.2 ⟨h.isAsciiLine, hnext.isAsciiLine⟩
  isLower := List.forall_mem_append.2 ⟨h.isLower, hnext.isLower⟩
  isChain := by
    refine List.isChain_append.2 ⟨h.isChain, hnext.isChain, fun c hc d hd => ?_⟩
    have hmem := List.mem_of_mem_head? hd
    have hc' := (h.isAsciiLine c (List.mem_of_mem_getLast? hc)).1
    rw [isSeam_of_toLower_eq hc' (hnext.isAsciiLine d hmem).1 (hnext.isLower d hmem)]
    rw [showsEnd, hd, hc, Option.any_some, Option.any_some, Bool.or_eq_false_iff] at hjoin
    exact hjoin.2

/-- A word whose end does not show goes on with the capitalised next one. -/
theorem capitalised_append (h : IsWord word) (hnext : IsWord next)
    (hjoin : showsEnd word next = false) :
    capitalised (word ++ next) = capitalised word ++ capitalised next := by
  have hjoined := h.append hnext hjoin
  obtain ⟨c, rest, rfl, -, hword⟩ := h.exists_capitalised_eq
  obtain ⟨c', rest', hcons, -, heq⟩ := hjoined.exists_capitalised_eq
  obtain ⟨rfl, rfl⟩ := List.cons.inj (hcons.symm.trans List.cons_append)
  obtain ⟨d, more, rfl, hascii, hd⟩ := hnext.exists_capitalised_eq
  -- The next word begins with no letter, so it stays as it is when it is capitalised.
  have hfirst : d.toUpper = d := by
    have hletter : d.isAlpha = false := (Bool.or_eq_false_iff.1 hjoin).1
    exact of_toNat_lt (P := fun d => d.isAlpha = false → d.toUpper = d) (by decide) hascii hletter
  rw [heq, hword, hd, hfirst, List.cons_append]

end IsWord

/-! ## The words that show in a list of words -/

theorem forall_mem_attach {word : List Char} {found : List (List Char)} (h : IsWord word)
    (hfound : ∀ next ∈ found, IsWord next) : ∀ next ∈ attach word found, IsWord next := by
  cases found with
  | nil => exact List.forall_mem_singleton.2 h
  | cons next found =>
    obtain ⟨hnext, hrest⟩ := List.forall_mem_cons.1 hfound
    rw [attach]
    split
    · exact List.forall_mem_cons.2 ⟨h, hfound⟩
    · rename_i hjoin
      exact List.forall_mem_cons.2 ⟨h.append hnext (Bool.eq_false_iff.2 hjoin), hrest⟩

theorem flatMap_capitalised_attach {word : List Char} {found : List (List Char)} (h : IsWord word)
    (hfound : ∀ next ∈ found, IsWord next) :
    (attach word found).flatMap capitalised = capitalised word ++ found.flatMap capitalised := by
  cases found with
  | nil => rfl
  | cons next found =>
    rw [attach]
    split
    · rw [List.flatMap_cons]
    · rename_i hjoin
      have hnext := hfound next List.mem_cons_self
      rw [List.flatMap_cons, h.capitalised_append hnext (Bool.eq_false_iff.2 hjoin),
        List.flatMap_cons, List.append_assoc]

/-- The end of every word that shows, shows. -/
theorem isChain_attach {word : List Char} {found : List (List Char)}
    (hfound : ∀ next ∈ found, IsWord next)
    (hchain : found.IsChain fun word next => showsEnd word next = true) :
    (attach word found).IsChain fun word next => showsEnd word next = true := by
  cases found with
  | nil => exact List.isChain_singleton _
  | cons next found =>
    rw [attach]
    split
    · rename_i hshows
      exact List.isChain_cons_cons.2 ⟨hshows, hchain⟩
    · obtain ⟨d, rest, hd, -, -⟩ := (hfound next List.mem_cons_self).exists_capitalised_eq
      have hlast : (word ++ next).getLast? = next.getLast? := by
        rw [hd, List.getLast?_append, List.getLast?_cons]
        rfl
      rw [List.isChain_cons] at hchain ⊢
      refine ⟨fun v hv => ?_, hchain.2⟩
      rw [showsEnd, hlast]
      exact hchain.1 v hv

section Words

variable {words : List (List Char)} (h : ∀ word ∈ words, word = [] ∨ IsWord word)

include h

/-- Every word that shows is a word, and its end shows. -/
theorem isWord_visibleWords : (∀ word ∈ visibleWords words, IsWord word) ∧
    (visibleWords words).IsChain fun word next => showsEnd word next = true := by
  induction words with
  | nil => exact ⟨fun _ hmem => absurd hmem List.not_mem_nil, .nil⟩
  | cons word rest ih =>
    obtain ⟨hword, hrest⟩ := List.forall_mem_cons.1 h
    obtain ⟨hfound, hchain⟩ := ih hrest
    rcases hword with rfl | hword
    · exact ⟨hfound, hchain⟩
    · rw [visibleWords_cons hword.ne_nil]
      exact ⟨forall_mem_attach hword hfound, isChain_attach hfound hchain⟩

/-- **The words that show make up the name of the interface.** -/
theorem flatMap_capitalised_visibleWords :
    (visibleWords words).flatMap capitalised = words.flatMap capitalised := by
  induction words with
  | nil => rfl
  | cons word rest ih =>
    obtain ⟨hword, hrest⟩ := List.forall_mem_cons.1 h
    rw [List.flatMap_cons]
    rcases hword with rfl | hword
    · exact ih hrest
    · rw [visibleWords_cons hword.ne_nil,
        flatMap_capitalised_attach hword (isWord_visibleWords hrest).1, ih hrest]

end Words

/-- Capitalised words whose ends show are what they make up together, cut at its seams. -/
theorem splitBy_flatMap_capitalised {words : List (List Char)} (h : ∀ word ∈ words, IsWord word)
    (hchain : words.IsChain fun word next => showsEnd word next = true) :
    (words.flatMap capitalised).splitBy (fun c d => !isSeam c d) = words.map capitalised := by
  induction words with
  | nil => rfl
  | cons word rest ih =>
    obtain ⟨hword, hrest⟩ := List.forall_mem_cons.1 h
    rw [List.isChain_cons] at hchain
    have hne : capitalised word ≠ [] := by
      obtain ⟨c, more, -, -, heq⟩ := hword.exists_capitalised_eq
      rw [heq]
      exact List.cons_ne_nil _ _
    have hseam : ∀ x ∈ (capitalised word).getLast?, ∀ y ∈ (rest.flatMap capitalised).head?,
        (!isSeam x y) = false := by
      intro x hx y hy
      cases rest with
      | nil => exact absurd hy (Option.not_mem_none y)
      | cons next found =>
        obtain ⟨hnext, -⟩ := List.forall_mem_cons.1 hrest
        have hy' : y ∈ (capitalised next).head? := by
          obtain ⟨d, more, -, -, heq⟩ := hnext.exists_capitalised_eq
          rw [List.flatMap_cons, heq] at hy
          rwa [heq]
        rw [hword.isSeam_eq_showsEnd hnext hx hy', hchain.1 next rfl]
        rfl
    rw [List.flatMap_cons, List.splitBy_append hseam,
      List.splitBy_of_isChain hne hword.isChain_capitalised, ih hrest hchain.2, List.map_cons,
      List.singleton_append]

/-! ## The words of a name -/

/-- Two clusters between which no word ends because of a digit. -/
def KeepsDigit (g next : Cluster) : Prop := ((isLower g || isUpper g) && isDigit next) = false

theorem keepsDigit_of_endsWord_eq_false {g next : Cluster} {rest : List Cluster}
    (h : endsWord g (next :: rest) = false) : KeepsDigit g next := by
  rw [endsWord] at h
  simp only [Bool.or_eq_false_iff] at h
  exact h.1.2

/-- **A word ends between a letter and a digit.** -/
theorem isChain_of_mem_wordsFrom {word found clusters : List Cluster}
    (hword : word.reverse.IsChain KeepsDigit)
    (hnext : ∀ g ∈ word.head?, ∀ next ∈ clusters.head?, KeepsDigit g next)
    (h : found ∈ wordsFrom word clusters) : found.IsChain KeepsDigit := by
  induction clusters generalizing word with
  | nil =>
    rw [wordsFrom, List.mem_singleton] at h
    rwa [h]
  | cons g rest ih =>
    have begins : ∀ l ∈ ([] : List Cluster).head?, ∀ next ∈ rest.head?, KeepsDigit l next :=
      fun l hl => absurd hl (Option.not_mem_none l)
    have hlonger : (g :: word).reverse.IsChain KeepsDigit := by
      rw [List.reverse_cons, List.isChain_append]
      refine ⟨hword, List.isChain_singleton _, fun l hl next hmem => ?_⟩
      rw [List.getLast?_reverse] at hl
      exact hnext l hl next hmem
    rw [wordsFrom] at h
    split at h
    · rcases List.mem_cons.1 h with rfl | h
      · exact hword
      · exact ih .nil begins h
    split at h
    · rcases List.mem_cons.1 h with rfl | h
      · exact hlonger
      · exact ih .nil begins h
    · rename_i hends
      refine ih hlonger ?_ h
      rintro l ⟨⟩ next hmem
      obtain ⟨more, rfl⟩ : ∃ more, rest = next :: more := by
        cases rest with
        | nil => exact absurd hmem (Option.not_mem_none next)
        | cons first more => exact ⟨more, by rw [Option.some.inj hmem]⟩
      exact keepsDigit_of_endsWord_eq_false (Bool.eq_false_iff.2 hends)

/-- A character of ASCII as a cluster of its own. -/
theorem keepsDigit_singleton {c d : Char} (hc : c.toNat < 128) (h : KeepsDigit [c] [d]) :
    (d.isDigit && c.isAlpha) = false := by
  have hcase : (isLower [c] || isUpper [c]) = c.isAlpha :=
    of_toNat_lt (P := fun c => (isLower [c] || isUpper [c]) = c.isAlpha) (by decide) hc
  rw [KeepsDigit, hcase, isDigit, List.all_cons, List.all_nil, Bool.and_true] at h
  rw [Bool.and_comm, h]

/-- The clusters of a word of a name are its characters. -/
theorem map_flatten_of_mem_words {name : List Char} (h : IsAsciiLine name) {word : List Cluster}
    (hword : word ∈ words name) : word.flatten.map (fun c => [c]) = word := by
  have hsingle : ∀ g ∈ word, ∃ c, [c] = g := by
    intro g hg
    have hmem := (mem_of_mem_wordsFrom hword hg).resolve_left List.not_mem_nil
    rw [clusters_of_isAsciiLine h, List.mem_map] at hmem
    obtain ⟨c, -, hc⟩ := hmem
    exact ⟨c, hc⟩
  clear hword
  induction word with
  | nil => rfl
  | cons g rest ih =>
    obtain ⟨⟨c, rfl⟩, hrest⟩ := List.forall_mem_cons.1 hsingle
    rw [List.flatten_cons, List.singleton_append, List.map_cons, ih hrest]

/-- **There is no seam within a word of a name.** -/
theorem isWord_of_mem_loweredWords {name : List Char} (h : IsAsciiLine name) {lowered : List Char}
    (hlowered : lowered ∈ loweredWords name) : lowered = [] ∨ IsWord lowered := by
  obtain ⟨word, hword, rfl⟩ := List.mem_map.1 hlowered
  have hascii := isAsciiLine_flatten_of_mem_words h hword
  have begins : ∀ l ∈ ([] : List Cluster).head?, ∀ next ∈ (clusters name).head?, KeepsDigit l next :=
    fun l hl => absurd hl (Option.not_mem_none l)
  have hchain : word.IsChain KeepsDigit := isChain_of_mem_wordsFrom .nil begins hword
  rw [← map_flatten_of_mem_words h hword, List.isChain_map] at hchain
  by_cases hempty : word.flatten = []
  · exact .inl (by rw [hempty, lower_nil])
  right
  rw [lower_of_isAsciiLine hascii]
  have hlower : ∀ c ∈ word.flatten, c.toLower.toLower = c.toLower := fun c hc =>
    of_toNat_lt (P := fun c => c.toLower.toLower = c.toLower) (by decide) (hascii c hc).1
  refine ⟨fun hnil => hempty (List.map_eq_nil_iff.1 hnil), isAsciiLine_map_toLower hascii,
    List.forall_mem_map.2 hlower, ?_⟩
  rw [List.isChain_map]
  refine hchain.imp_of_mem_imp fun c d hc hd hkeeps => ?_
  have hletter : c.toLower.isAlpha = c.isAlpha ∧ c.toLower.toNat < 128 :=
    of_toNat_lt (P := fun c => c.toLower.isAlpha = c.isAlpha ∧ c.toLower.toNat < 128) (by decide)
      (hascii c hc).1
  have hdigit : d.toLower.isDigit = d.isDigit ∧ d.toLower.toNat < 128 :=
    of_toNat_lt (P := fun d => d.toLower.isDigit = d.isDigit ∧ d.toLower.toNat < 128) (by decide)
      (hascii d hd).1
  rw [isSeam_of_toLower_eq hletter.2 hdigit.2 (hlower d hd), hletter.1, hdigit.1]
  exact keepsDigit_singleton (hascii c hc).1 hkeeps

/-! ## The name of the interface -/

/-- **What is read off the name of an interface** are the words that show. -/
theorem readBack_pascal {name : String} (h : IsAsciiLine name.toList) :
    readBack (pascal name).toList = visibleWords (loweredWords name.toList) := by
  have hwords : ∀ word ∈ loweredWords name.toList, word = [] ∨ IsWord word :=
    fun _ => isWord_of_mem_loweredWords h
  obtain ⟨hvisible, hchain⟩ := isWord_visibleWords hwords
  rw [readBack, pascal_eq_flatMap_loweredWords h, String.toList_ofList,
    ← flatMap_capitalised_visibleWords hwords, splitBy_flatMap_capitalised hvisible hchain,
    List.map_map]
  exact (List.map_congr_left fun word hword => (hvisible word hword).lower_capitalised).trans
    (List.map_id' _)

/-- A name is legible exactly when all its words show. -/
theorem isLegible_iff_allShow {name : String} (h : IsAsciiLine name.toList) :
    IsLegible name ↔ AllShow (loweredWords name.toList) := by
  rw [IsLegible, readBack_pascal h]
  constructor
  · intro hsame
    obtain ⟨hwords, hchain⟩ := isWord_visibleWords fun _ => isWord_of_mem_loweredWords h
    rw [hsame] at hwords hchain
    exact ⟨fun hnil => (hwords [] hnil).ne_nil rfl, hchain⟩
  · exact visibleWords_of_allShow

/-- **Two names have the same interface exactly when the same words show.** -/
theorem pascal_eq_iff {a b : String} (ha : IsAsciiLine a.toList) (hb : IsAsciiLine b.toList) :
    pascal a = pascal b ↔
      visibleWords (loweredWords a.toList) = visibleWords (loweredWords b.toList) := by
  constructor
  · intro h
    rw [← readBack_pascal ha, h, readBack_pascal hb]
  · intro h
    rw [pascal_eq_flatMap_loweredWords ha, pascal_eq_flatMap_loweredWords hb,
      ← flatMap_capitalised_visibleWords fun _ => isWord_of_mem_loweredWords ha, h,
      flatMap_capitalised_visibleWords fun _ => isWord_of_mem_loweredWords hb]

/-- The empty word does not show, and neither does the end of the first of two words of digits. -/
example : visibleWords (loweredWords "blog__v1_2".toList) =
    ["blog".toList, "v".toList, "12".toList] := by decide

end InterfaceSync.Naming
