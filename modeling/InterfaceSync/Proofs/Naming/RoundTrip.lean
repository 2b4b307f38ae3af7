import InterfaceSync.Proofs.Catalogue
import InterfaceSync.Proofs.Naming.VisibleWords
import Mathlib.Data.List.Chain

/-!
# Names that come back from the name of the interface

A model may be asked for by the name of its interface, and then the key is made from that name.  Take a
name of words in small letters with underscores between.  In the name of its interface a word ends where
a small letter stands in front of a capital, or a capital in front of a capital and a small letter.  So
the end of a word is found again if the word or the next one has a second letter.  Between two single
letters nothing tells it: `x_y_axis` has the interface `XYAxis`, which has the key `xy_axis`.

* `wordsFrom_eq_modifyHead`: the word that was begun is put in front of the first one that is found.
* `runTogether`: words in which single letters behind one another run together.
* `wordsFrom_flatten_of_isCapitalised`: the words of the name of an interface.
* `snake_pascal_underscored`: the key that is made from it.
* `snake_pascal_eq_iff`: the names that come back, and the models that are found.
-/

namespace InterfaceSync.Naming

open Text

/-! ## Single letters -/

section RunTogether

variable {α β : Type}

/-- Words in which single letters that stand behind one another run together to one word. -/
def runTogether : List (List α) → List (List α)
  | [] => []
  | [word] => [word]
  | word :: next :: rest =>
    if word.length = 1 ∧ next.length = 1 then (runTogether (next :: rest)).modifyHead (word ++ ·)
    else word :: runTogether (next :: rest)

/-- The words depend on their lengths alone. -/
theorem runTogether_map (f : α → β) (words : List (List α)) :
    runTogether (words.map (List.map f)) = (runTogether words).map (List.map f) := by
  induction words using runTogether.induct with
  | case1 => rfl
  | case2 word => rfl
  | case3 word next rest single ih =>
    rw [List.map_cons] at ih
    rw [List.map_cons, List.map_cons, runTogether, List.length_map, List.length_map, if_pos single, ih,
      runTogether, if_pos single]
    cases runTogether (next :: rest) with
    | nil => rfl
    | cons first found => simp
  | case4 word next rest single ih =>
    rw [List.map_cons] at ih
    rw [List.map_cons, List.map_cons, runTogether, List.length_map, List.length_map, if_neg single, ih,
      runTogether, if_neg single, List.map_cons]

/-- There are no more words than before. -/
theorem length_runTogether_le (words : List (List α)) : (runTogether words).length ≤ words.length := by
  induction words using runTogether.induct with
  | case1 => exact le_rfl
  | case2 word => exact le_rfl
  | case3 word next rest single ih =>
    rw [runTogether, if_pos single, List.length_modifyHead]
    exact ih.trans (Nat.le_succ _)
  | case4 word next rest single ih =>
    rw [runTogether, if_neg single]
    exact Nat.succ_le_succ ih

/-- **No word runs together with the next one** exactly if no two single letters stand behind one
another. -/
theorem runTogether_eq_self_iff {words : List (List α)} : runTogether words = words ↔
    words.IsChain fun word next => ¬ (word.length = 1 ∧ next.length = 1) := by
  induction words using runTogether.induct with
  | case1 => exact iff_of_true rfl .nil
  | case2 word => exact iff_of_true rfl (List.isChain_singleton word)
  | case3 word next rest single ih =>
    refine iff_of_false (fun h => ?_) fun h => (List.isChain_cons_cons.1 h).1 single
    have hlength := congrArg List.length h
    have hle := length_runTogether_le (next :: rest)
    rw [runTogether, if_pos single, List.length_modifyHead, List.length_cons] at hlength
    omega
  | case4 word next rest single ih =>
    rw [runTogether, if_neg single, List.isChain_cons_cons, ← ih, List.cons.injEq]
    exact ⟨fun h => ⟨single, h.2⟩, fun h => ⟨rfl, h.2⟩⟩

end RunTogether

/-! ## Where words end -/

/-- The word that was begun is put in front of the first one that is found. -/
theorem wordsFrom_eq_modifyHead (word clusters : List Cluster) :
    wordsFrom word clusters = (wordsFrom [] clusters).modifyHead (word.reverse ++ ·) := by
  induction clusters generalizing word with
  | nil => simp [wordsFrom]
  | cons g rest ih =>
    rw [wordsFrom, wordsFrom]
    split
    · simp
    split
    · simp
    · rw [ih (g :: word), ih [g], List.modifyHead_modifyHead]
      congr 1
      funext found
      simp

/-- A cluster that counts as a small letter. -/
structure IsSmall (g : Cluster) : Prop where
  isLower : isLower g = true
  isUpper : isUpper g = false
  isDigit : isDigit g = false
  isSeparator : isSeparator g = false

/-- A cluster that counts as a capital. -/
structure IsLarge (g : Cluster) : Prop where
  isLower : isLower g = false
  isUpper : isUpper g = true
  isDigit : isDigit g = false
  isSeparator : isSeparator g = false

section Ends

variable {g next : Cluster} {front rest : List Cluster}

theorem wordsFrom_of_goesOn (hg : isSeparator g = false) (h : endsWord g rest = false) :
    wordsFrom [] (g :: rest) = (wordsFrom [] rest).modifyHead (g :: ·) := by
  rw [wordsFrom, hg, h, if_neg Bool.false_ne_true, if_neg Bool.false_ne_true, wordsFrom_eq_modifyHead]
  rfl

theorem wordsFrom_of_ends (hg : isSeparator g = false) (h : endsWord g rest = true) :
    wordsFrom [] (g :: rest) = [g] :: wordsFrom [] rest := by
  rw [wordsFrom, hg, h]
  rfl

/-- Behind a small letter a word ends in front of a capital. -/
theorem IsSmall.endsWord_cons (h : IsSmall g) (hnext : Naming.isDigit next = false) :
    endsWord g (next :: rest) = Naming.isUpper next := by
  rw [endsWord, h.isLower, h.isUpper, h.isDigit, hnext]
  simp

/-- Behind a capital a word ends in front of a capital and a small letter. -/
theorem IsLarge.endsWord_cons (h : IsLarge g) (hnext : Naming.isDigit next = false) :
    endsWord g (next :: rest) = (Naming.isUpper next && rest.head?.any Naming.isLower) := by
  rw [endsWord, h.isLower, h.isUpper, h.isDigit, hnext]
  simp

/-- A word goes on from small letters to a small letter. -/
theorem wordsFrom_append_of_isSmall (h : ∀ g ∈ front, IsSmall g) (hg : IsSmall g) :
    wordsFrom [] (front ++ g :: rest) = (wordsFrom [] (g :: rest)).modifyHead (front ++ ·) := by
  induction front with
  | nil => exact (congrFun List.modifyHead_id _).symm
  | cons first front ih =>
    obtain ⟨hfirst, hfront⟩ := List.forall_mem_cons.1 h
    have goesOn : endsWord first (front ++ g :: rest) = false := by
      cases front with
      | nil => exact (hfirst.endsWord_cons hg.isDigit).trans hg.isUpper
      | cons second front =>
        have hsecond := hfront second List.mem_cons_self
        exact (hfirst.endsWord_cons hsecond.isDigit).trans hsecond.isUpper
    rw [List.cons_append, wordsFrom_of_goesOn hfirst.isSeparator goesOn, ih hfront,
      List.modifyHead_modifyHead]
    rfl

/-- Small letters are one word if the word ends behind the last of them. -/
theorem wordsFrom_append_of_ends (hne : front ≠ []) (h : ∀ g ∈ front, IsSmall g)
    {found : List (List Cluster)}
    (ends : ∀ g, IsSmall g → wordsFrom [] (g :: rest) = [g] :: found) :
    wordsFrom [] (front ++ rest) = front :: found := by
  obtain ⟨init, g, rfl⟩ := (List.eq_nil_or_concat' front).resolve_left hne
  obtain ⟨hinit, hg⟩ := List.forall_mem_append.1 h
  have hlast := hg g List.mem_cons_self
  rw [List.append_assoc, List.singleton_append, wordsFrom_append_of_isSmall hinit hlast, ends g hlast]
  rfl

/-- A word ends with the name. -/
theorem wordsFrom_of_isSmall (hne : front ≠ []) (h : ∀ g ∈ front, IsSmall g) :
    wordsFrom [] front = [front] := by
  have hword : wordsFrom [] (front ++ []) = front :: [] :=
    wordsFrom_append_of_ends hne h fun g hg => wordsFrom_of_goesOn hg.isSeparator rfl
  rwa [List.append_nil] at hword

/-- A word ends in front of a capital. -/
theorem wordsFrom_append_of_isLarge (hne : front ≠ []) (h : ∀ g ∈ front, IsSmall g)
    (hnext : IsLarge next) :
    wordsFrom [] (front ++ next :: rest) = front :: wordsFrom [] (next :: rest) :=
  wordsFrom_append_of_ends hne h fun _ hg =>
    wordsFrom_of_ends hg.isSeparator ((hg.endsWord_cons hnext.isDigit).trans hnext.isUpper)

/-- A word ends in front of an underscore, and the underscore is dropped. -/
theorem wordsFrom_append_underscore (hne : front ≠ []) (h : ∀ g ∈ front, IsSmall g)
    (rest : List Cluster) : wordsFrom [] (front ++ ['_'] :: rest) = front :: wordsFrom [] rest := by
  refine wordsFrom_append_of_ends hne h fun g hg => ?_
  have goesOn : endsWord g (['_'] :: rest) = false := hg.endsWord_cons (by decide)
  rw [wordsFrom_of_goesOn hg.isSeparator goesOn]
  rfl

end Ends

/-! ## Capitalised words -/

/-- A capital and small letters. -/
def IsCapitalised (word : List Cluster) : Prop :=
  ∃ g front, word = g :: front ∧ IsLarge g ∧ ∀ d ∈ front, IsSmall d

section Capitalised

variable {word next : List Cluster}

theorem wordsFrom_of_isCapitalised (h : IsCapitalised word) : wordsFrom [] word = [word] := by
  obtain ⟨g, front, rfl, hg, hfront⟩ := h
  cases front with
  | nil => exact wordsFrom_of_goesOn hg.isSeparator rfl
  | cons d front =>
    have hd := hfront d List.mem_cons_self
    have goesOn : endsWord g (d :: front) = false := by
      rw [hg.endsWord_cons hd.isDigit, hd.isUpper, Bool.false_and]
    rw [wordsFrom_of_goesOn hg.isSeparator goesOn, wordsFrom_of_isSmall (List.cons_ne_nil d front) hfront]
    rfl

/-- **A capitalised word in front of another one** ends there, unless both are single letters. -/
theorem wordsFrom_append_of_isCapitalised (h : IsCapitalised word) (hnext : IsCapitalised next)
    {more : List Cluster} (hmore : more.head?.any isLower = false) :
    wordsFrom [] (word ++ (next ++ more)) =
      if word.length = 1 ∧ next.length = 1 then (wordsFrom [] (next ++ more)).modifyHead (word ++ ·)
      else word :: wordsFrom [] (next ++ more) := by
  obtain ⟨g, front, rfl, hg, hfront⟩ := h
  obtain ⟨e, tail, rfl, he, htail⟩ := hnext
  cases front with
  | nil =>
    have hends : endsWord g (e :: (tail ++ more)) = (tail ++ more).head?.any isLower := by
      rw [hg.endsWord_cons he.isDigit, he.isUpper, Bool.true_and]
    cases tail with
    | nil =>
      rw [if_pos ⟨rfl, rfl⟩]
      exact wordsFrom_of_goesOn hg.isSeparator (hends.trans hmore)
    | cons d tail =>
      rw [if_neg (by simp)]
      exact wordsFrom_of_ends hg.isSeparator (hends.trans (htail d List.mem_cons_self).isLower)
  | cons d front =>
    have hd := hfront d List.mem_cons_self
    have goesOn : endsWord g (d :: front ++ e :: (tail ++ more)) = false := by
      rw [List.cons_append, hg.endsWord_cons hd.isDigit, hd.isUpper, Bool.false_and]
    have ends : wordsFrom [] (d :: front ++ e :: (tail ++ more)) =
        (d :: front) :: wordsFrom [] (e :: (tail ++ more)) :=
      wordsFrom_append_of_isLarge (List.cons_ne_nil d front) hfront he
    rw [if_neg (by simp)]
    exact (wordsFrom_of_goesOn hg.isSeparator goesOn).trans (congrArg (List.modifyHead (g :: ·)) ends)

/-- What is made of capitalised words does not begin with a small letter. -/
theorem any_head?_flatten_of_isCapitalised {words : List (List Cluster)}
    (h : ∀ word ∈ words, IsCapitalised word) : words.flatten.head?.any isLower = false := by
  cases words with
  | nil => rfl
  | cons word rest =>
    obtain ⟨g, front, rfl, hg, -⟩ := h word List.mem_cons_self
    exact hg.isLower

/-- **The words of capitalised words** are these words, but that single letters run together. -/
theorem wordsFrom_flatten_of_isCapitalised {words : List (List Cluster)} (hne : words ≠ [])
    (h : ∀ word ∈ words, IsCapitalised word) : wordsFrom [] words.flatten = runTogether words := by
  induction words with
  | nil => exact absurd rfl hne
  | cons word rest ih =>
    obtain ⟨hword, hrest⟩ := List.forall_mem_cons.1 h
    cases rest with
    | nil =>
      rw [List.flatten_singleton]
      exact wordsFrom_of_isCapitalised hword
    | cons next rest =>
      obtain ⟨hnext, hmore⟩ := List.forall_mem_cons.1 hrest
      have hfound := ih (List.cons_ne_nil next rest) hrest
      rw [List.flatten_cons] at hfound
      rw [List.flatten_cons, List.flatten_cons, wordsFrom_append_of_isCapitalised hword hnext
        (any_head?_flatten_of_isCapitalised hmore), hfound, runTogether]

end Capitalised

/-! ## Names in small letters -/

/-- A word of small letters of ASCII. -/
structure IsLetters (word : List Char) : Prop where
  ne_nil : word ≠ []
  isLower : ∀ c ∈ word, c.isLower = true

/-- The words of a name in small letters: at least one, and none of them empty. -/
structure IsSnakeCase (words : List (List Char)) : Prop where
  ne_nil : words ≠ []
  isLetters : ∀ word ∈ words, IsLetters word

/-- The name with the given words. -/
def underscored (words : List (List Char)) : String :=
  String.ofList (List.intercalate ['_'] words)

/-- A text character by character. -/
def singles (text : List Char) : List Cluster := text.map fun c => [c]

@[simp] theorem flatten_singles (text : List Char) : (singles text).flatten = text := by
  rw [singles, ← List.flatMap_def, List.flatMap_singleton']

/-- What holds of the small letters of ASCII, checked one by one. -/
theorem of_isLower {P : Char → Prop}
    (ascii : ∀ n < 128, (Char.ofNat n).isLower = true → P (Char.ofNat n)) {c : Char}
    (h : c.isLower = true) : P c :=
  of_toNat_lt (P := fun c => c.isLower = true → P c) ascii
    (toNat_lt_of_isAlpha (Bool.or_eq_true_iff.2 (.inr h))) h

theorem isSmall_of_isLower {c : Char} (h : c.isLower = true) : IsSmall [c] := by
  obtain ⟨hlower, hupper, hdigit, hseparator⟩ := of_isLower (P := fun c =>
    isLower [c] = true ∧ isUpper [c] = false ∧ isDigit [c] = false ∧ isSeparator [c] = false)
    (by decide) h
  exact ⟨hlower, hupper, hdigit, hseparator⟩

theorem isLarge_toUpper {c : Char} (h : c.isLower = true) : IsLarge [c.toUpper] := by
  obtain ⟨hlower, hupper, hdigit, hseparator⟩ := of_isLower (P := fun c =>
    isLower [c.toUpper] = false ∧ isUpper [c.toUpper] = true ∧ isDigit [c.toUpper] = false ∧
      isSeparator [c.toUpper] = false) (by decide) h
  exact ⟨hlower, hupper, hdigit, hseparator⟩

namespace IsLetters

variable {word : List Char} (h : IsLetters word)

include h

/-- Between small letters there is no seam. -/
theorem isWord : IsWord word where
  ne_nil := h.ne_nil
  isAsciiLine c hc := of_isLower (P := fun c => c.toNat < 128 ∧ c ≠ '\n') (by decide) (h.isLower c hc)
  isLower c hc := of_isLower (P := fun c => c.toLower = c) (by decide) (h.isLower c hc)
  isChain := by
    refine (List.pairwise_of_forall_mem_list fun c hc d hd => ?_).isChain
    obtain ⟨hascii, hupper, hdigit⟩ := of_isLower
      (P := fun d => d.toNat < 128 ∧ d.isUpper = false ∧ d.isDigit = false) (by decide) (h.isLower d hd)
    have hc' := of_isLower (P := fun c => c.toNat < 128) (by decide) (h.isLower c hc)
    rw [isSeam_of_lt hc' hascii, hupper, hdigit]
    rfl

theorem map_toLower : word.map Char.toLower = word :=
  (List.map_congr_left h.isWord.isLower).trans word.map_id'

theorem map_toLower_capitalised : (capitalised word).map Char.toLower = word := by
  rw [← lower_of_isAsciiLine (isAsciiLine_capitalised h.isWord.isAsciiLine), h.isWord.lower_capitalised]

theorem isCapitalised : IsCapitalised (singles (capitalised word)) := by
  obtain ⟨c, rest, hword, -, heq⟩ := h.isWord.exists_capitalised_eq
  have hlower := h.isLower
  rw [hword, List.forall_mem_cons] at hlower
  rw [heq]
  exact ⟨_, _, rfl, isLarge_toUpper hlower.1,
    List.forall_mem_map.2 fun d hd => isSmall_of_isLower (hlower.2 d hd)⟩

theorem isSmall_singles : ∀ g ∈ singles word, IsSmall g :=
  List.forall_mem_map.2 fun c hc => isSmall_of_isLower (h.isLower c hc)

theorem singles_ne_nil : singles word ≠ [] := fun hnil => h.ne_nil (List.map_eq_nil_iff.1 hnil)

end IsLetters

/-- The words of a name of ASCII in lower case, once they are found character by character. -/
theorem loweredWords_of_isAsciiLine {name : List Char} (h : IsAsciiLine name) {found : List (List Char)}
    (hfound : wordsFrom [] (singles name) = found.map singles) :
    loweredWords name = found.map (List.map Char.toLower) := by
  have hwords : words name = found.map singles := by
    rw [words, clusters_of_isAsciiLine h]
    exact hfound
  rw [loweredWords, hwords, List.map_map]
  refine List.map_congr_left fun word hword => ?_
  have hascii := isAsciiLine_flatten_of_mem_words h (hwords ▸ List.mem_map_of_mem hword)
  rw [flatten_singles] at hascii
  rw [Function.comp_apply, flatten_singles, lower_of_isAsciiLine hascii]

namespace IsSnakeCase

variable {words : List (List Char)} (h : IsSnakeCase words)

include h

theorem isAsciiLine : IsAsciiLine (underscored words).toList := by
  obtain ⟨-, hwords⟩ := h
  rw [underscored, String.toList_ofList]
  induction words with
  | nil => exact fun c hc => absurd hc List.not_mem_nil
  | cons word rest ih =>
    obtain ⟨hword, hrest⟩ := List.forall_mem_cons.1 hwords
    cases rest with
    | nil => exact List.intercalate_singleton ▸ hword.isWord.isAsciiLine
    | cons next rest =>
      rw [List.intercalate_cons_cons]
      have hfront : IsAsciiLine (word ++ ['_']) :=
        List.forall_mem_append.2 ⟨hword.isWord.isAsciiLine, List.forall_mem_singleton.2 (by decide)⟩
      exact List.forall_mem_append.2 ⟨hfront, ih hrest⟩

/-- A name in small letters is cut at its underscores. -/
theorem wordsFrom_intercalate :
    wordsFrom [] (singles (List.intercalate ['_'] words)) = words.map singles := by
  obtain ⟨hne, hwords⟩ := h
  induction words with
  | nil => exact absurd rfl hne
  | cons word rest ih =>
    obtain ⟨hword, hrest⟩ := List.forall_mem_cons.1 hwords
    cases rest with
    | nil =>
      rw [List.intercalate_singleton, List.map_singleton]
      exact wordsFrom_of_isSmall hword.singles_ne_nil hword.isSmall_singles
    | cons next rest =>
      have hfound := ih (List.cons_ne_nil next rest) hrest
      rw [List.intercalate_cons_cons, List.append_assoc, List.singleton_append, singles, List.map_append,
        List.map_cons, ← singles, ← singles, List.map_cons, ← hfound]
      exact wordsFrom_append_underscore hword.singles_ne_nil hword.isSmall_singles _

/-- A name in small letters is made of its words. -/
theorem loweredWords_underscored : loweredWords (underscored words).toList = words := by
  have hfound : wordsFrom [] (singles (underscored words).toList) = words.map singles := by
    rw [underscored, String.toList_ofList]
    exact h.wordsFrom_intercalate
  rw [loweredWords_of_isAsciiLine h.isAsciiLine hfound]
  exact (List.map_congr_left fun word hword => (h.isLetters word hword).map_toLower).trans words.map_id'

/-- A name in small letters is its own key. -/
theorem snake_underscored : snake (underscored words) = underscored words := by
  rw [snake, ← loweredWords, h.loweredWords_underscored, underscored]

theorem pascal_underscored :
    pascal (underscored words) = String.ofList (words.flatMap capitalised) := by
  rw [pascal_eq_flatMap_loweredWords h.isAsciiLine, h.loweredWords_underscored]

/-- **The words of the name of the interface** are the words of the name, but that single letters run
together. -/
theorem loweredWords_pascal : loweredWords (pascal (underscored words)).toList = runTogether words := by
  have hcapitalised : ∀ word ∈ words.map (singles ∘ capitalised), IsCapitalised word :=
    List.forall_mem_map.2 fun word hword => (h.isLetters word hword).isCapitalised
  have hsingles : singles (pascal (underscored words)).toList =
      (words.map (singles ∘ capitalised)).flatten := by
    rw [h.pascal_underscored, String.toList_ofList, List.flatMap_def, ← List.map_map, singles,
      List.map_flatten]
    rfl
  have hfound : wordsFrom [] (singles (pascal (underscored words)).toList) =
      (runTogether (words.map capitalised)).map singles := by
    rw [hsingles, wordsFrom_flatten_of_isCapitalised (by simpa using h.ne_nil) hcapitalised,
      ← List.map_map]
    exact runTogether_map _ _
  rw [loweredWords_of_isAsciiLine (isAsciiLine_pascal h.isAsciiLine) hfound, ← runTogether_map,
    List.map_map]
  refine congrArg runTogether ?_
  exact (List.map_congr_left fun word hword => (h.isLetters word hword).map_toLower_capitalised).trans
    (List.map_id' words)

/-- **The key that is made from the name of the interface.** -/
theorem snake_pascal : snake (pascal (underscored words)) = underscored (runTogether words) := by
  rw [snake, ← loweredWords, h.loweredWords_pascal, underscored]

end IsSnakeCase

example : snake (pascal "x_y_axis") = "xy_axis" := by decide

/-! ## Names that come back -/

/-- **A name in small letters comes back from the name of its interface** exactly if no two single letters
stand behind one another in it.  In exactly these cases a catalogue that holds a model of that name finds
the model under the name of its interface. -/
theorem snake_pascal_eq_iff {words : List (List Char)} (h : IsSnakeCase words) :
    (snake (pascal (underscored words)) = underscored words ↔
      words.IsChain fun word next => ¬ (word.length = 1 ∧ next.length = 1)) ∧
    ∀ (c : Catalogue) (m : Model), m ∈ c.models → m.name = underscored words →
      (c.find? m.interfaceName = some m ↔
        words.IsChain fun word next => ¬ (word.length = 1 ∧ next.length = 1)) := by
  have comesBack : snake (pascal (underscored words)) = underscored words ↔
      words.IsChain fun word next => ¬ (word.length = 1 ∧ next.length = 1) := by
    rw [← runTogether_eq_self_iff]
    constructor
    · intro hback
      have hsame : snake (pascal (underscored words)) = snake (underscored words) :=
        hback.trans h.snake_underscored.symm
      rw [← h.loweredWords_pascal, loweredWords_eq_of_snake_eq (isAsciiLine_pascal h.isAsciiLine)
        h.isAsciiLine hsame, h.loweredWords_underscored]
    · intro hsame
      rw [h.snake_pascal, hsame]
  refine ⟨comesBack, fun c m hm hname => ?_⟩
  rw [Catalogue.find?_eq_some_iff_of_mem hm, Model.key, Model.interfaceName, hname, h.snake_underscored,
    ← comesBack, eq_comm]

/-- A single letter in front of a word comes back, and in front of a single letter it does not. -/
theorem snake_pascal_eq_iff_axis :
    snake (pascal "x_axis") = "x_axis" ∧ snake (pascal "x_y_axis") ≠ "x_y_axis" ∧
      (Catalogue.mk [.named "x_axis"] (List.pairwise_singleton _ _)).find? "XAxis" =
        some (.named "x_axis") := by
  have letters : ∀ word ∈ ["x".toList, "y".toList, "axis".toList], IsLetters word := by
    have hne : ∀ word ∈ ["x".toList, "y".toList, "axis".toList], word ≠ [] := by decide
    have hlower : ∀ word ∈ ["x".toList, "y".toList, "axis".toList], word.all Char.isLower = true := by
      decide
    exact fun word hword => ⟨hne word hword, List.all_eq_true.1 (hlower word hword)⟩
  have axis : IsSnakeCase ["x".toList, "axis".toList] :=
    ⟨List.cons_ne_nil _ _, fun word hword => letters word (by revert word; decide)⟩
  have axes : IsSnakeCase ["x".toList, "y".toList, "axis".toList] := ⟨List.cons_ne_nil _ _, letters⟩
  refine ⟨(snake_pascal_eq_iff axis).1.2 (by decide), fun h => ?_, ?_⟩
  · exact absurd ((snake_pascal_eq_iff axes).1.1 h) (by decide)
  · exact ((snake_pascal_eq_iff axis).2 _ (.named "x_axis") List.mem_cons_self rfl).2 (by decide)

end InterfaceSync.Naming
