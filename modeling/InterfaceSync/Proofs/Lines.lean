import InterfaceSync.Text.Lines

/-!
# The cut of a text into lines

`Text.lines` cuts a text behind each line feed.  Here is what a cut is, said without the function, and
how the cut of two texts joined is made from the cuts of the two.

* `IsCut`: every line is ended, but perhaps the last one, which is then not empty.
* `IsCutOf`: a cut whose lines make up a text.
* `lines_eq_iff`: the lines of a text are its one cut.
* `lines_append_of_endsInFeed`: behind a line feed the two cuts stand one behind the other.
* `feed_induction`: a text is one unfinished line, or a finished line and a text.
-/

namespace InterfaceSync.Text

/-! ## Texts line by line -/

/-- A text is one unfinished line, or a finished line and a text behind it. -/
@[elab_as_elim]
theorem feed_induction {motive : List Char → Prop}
    (unfinished : ∀ body, '\n' ∉ body → motive body)
    (finished : ∀ body rest, '\n' ∉ body → motive rest → motive (body ++ '\n' :: rest))
    (text : List Char) : motive text := by
  by_cases h : '\n' ∈ text
  · obtain ⟨body, rest, htext, hbody⟩ := List.eq_append_cons_of_mem h
    rw [htext]
    exact finished body rest hbody (feed_induction unfinished finished rest)
  · exact unfinished text h
termination_by text.length
decreasing_by rw [htext, List.length_append, List.length_cons]; omega

theorem cutBehindFeeds_finished {body : List Char} (h : '\n' ∉ body) (rest : List Char) :
    cutBehindFeeds (body ++ '\n' :: rest) = (body ++ ['\n']) :: cutBehindFeeds rest := by
  induction body with
  | nil => simp [cutBehindFeeds]
  | cons c body ih =>
    rw [List.mem_cons, not_or] at h
    rw [List.cons_append, cutBehindFeeds, if_neg (Ne.symm h.1), ih h.2]
    rfl

theorem cutBehindFeeds_unfinished {body : List Char} (h : '\n' ∉ body) (hne : body ≠ []) :
    cutBehindFeeds body = [body] := by
  induction body with
  | nil => exact absurd rfl hne
  | cons c body ih =>
    rw [List.mem_cons, not_or] at h
    rw [cutBehindFeeds, if_neg (Ne.symm h.1)]
    cases body with
    | nil => rfl
    | cons d body => rw [ih h.2 (List.cons_ne_nil d body)]

theorem lines_finished {body : List Char} (h : '\n' ∉ body) (rest : List Char) :
    lines (body ++ '\n' :: rest) = Line.ofText (body ++ ['\n']) :: lines rest := by
  rw [lines, cutBehindFeeds_finished h, List.map_cons, lines]

theorem lines_unfinished {body : List Char} (h : '\n' ∉ body) (hne : body ≠ []) :
    lines body = [Line.ofText body] := by
  rw [lines, cutBehindFeeds_unfinished h hne, List.map_singleton]

/-! ## One line -/

namespace Line

/-- A line that is ended: there is no line feed in the body, and a carriage return in front of the
line feed belongs to the ending. -/
structure IsEnded (l : Line) : Prop where
  notMem : '\n' ∉ l.body
  ending_eq : l.ending = ['\r', '\n'] ∨ l.ending = ['\n'] ∧ l.body.getLast? ≠ some '\r'

theorem ofText_crlf (body : List Char) :
    ofText (body ++ ['\r', '\n']) = ⟨body, ['\r', '\n']⟩ := by
  simp [ofText]

theorem ofText_feed {body : List Char} (h : body.getLast? ≠ some '\r') :
    ofText (body ++ ['\n']) = ⟨body, ['\n']⟩ := by
  unfold ofText
  rw [List.reverse_append, List.reverse_singleton, List.singleton_append]
  rw [← List.head?_reverse] at h
  split
  · rename_i rest hrest
    rw [(List.cons.inj hrest).2] at h
    exact absurd rfl h
  · rename_i rest _ hrest
    rw [← (List.cons.inj hrest).2, List.reverse_reverse]
  · rename_i hne
    exact absurd rfl (hne _)

theorem ofText_unfinished {body : List Char} (h : '\n' ∉ body) : ofText body = ⟨body, []⟩ := by
  have hhead : ∀ rest, body.reverse ≠ '\n' :: rest := by
    intro rest hrest
    refine h (List.mem_reverse.1 ?_)
    rw [hrest]
    exact List.mem_cons_self
  unfold ofText
  split
  · rename_i rest hrest
    exact absurd hrest (hhead _)
  · rename_i rest _ hrest
    exact absurd hrest (hhead _)
  · rfl

/-- What a line begins with is in its body, unless it is the ending already. -/
theorem exists_body_ofText_cons {c : Char} (hreturn : c ≠ '\r') (hfeed : c ≠ '\n')
    (raw : List Char) : ∃ rest, (ofText (c :: raw)).body = c :: rest := by
  have hending : (ofText (c :: raw)).ending = [] ∨ (ofText (c :: raw)).ending = ['\n'] ∨
      (ofText (c :: raw)).ending = ['\r', '\n'] := by
    unfold ofText
    split
    · exact .inr (.inr rfl)
    · exact .inr (.inl rfl)
    · exact .inl rfl
  have htext := text_ofText (c :: raw)
  rw [text] at htext
  cases hbody : (ofText (c :: raw)).body with
  | nil =>
    rw [hbody, List.nil_append] at htext
    rw [htext] at hending
    rcases hending with h | h | h
    · exact absurd h (List.cons_ne_nil c raw)
    · exact absurd (List.cons.inj h).1 hfeed
    · exact absurd (List.cons.inj h).1 hreturn
  | cons d rest =>
    rw [hbody] at htext
    exact ⟨rest, by rw [(List.cons.inj htext).1]⟩

/-- A line that is ended is what its own text is parted into. -/
theorem IsEnded.ofText_text {l : Line} (h : l.IsEnded) : ofText l.text = l := by
  obtain ⟨body, ending⟩ := l
  rcases h.ending_eq with he | ⟨he, hlast⟩
  · simp only at he
    rw [he]
    exact ofText_crlf body
  · simp only at he hlast
    rw [he]
    exact ofText_feed hlast

/-- The text of a line that is ended is a text without line feeds and a line feed. -/
theorem IsEnded.exists_text_eq {l : Line} (h : l.IsEnded) :
    ∃ front, '\n' ∉ front ∧ l.text = front ++ ['\n'] := by
  obtain ⟨body, ending⟩ := l
  have hbody : '\n' ∉ body := h.notMem
  rcases h.ending_eq with he | ⟨he, -⟩
  · refine ⟨body ++ ['\r'], ?_, ?_⟩
    · simp [hbody]
    · simp only at he
      simp [text, he]
  · refine ⟨body, hbody, ?_⟩
    simp only at he
    rw [text, he]

/-- What stands in front of a line feed is parted into a line that is ended. -/
theorem isEnded_ofText {body : List Char} (h : '\n' ∉ body) : (ofText (body ++ ['\n'])).IsEnded := by
  by_cases hlast : body.getLast? = some '\r'
  · obtain ⟨front, rfl⟩ := List.getLast?_eq_some_iff.1 hlast
    rw [List.append_assoc, List.singleton_append, ofText_crlf]
    exact ⟨fun hmem => h (List.mem_append_left _ hmem), .inl rfl⟩
  · rw [ofText_feed hlast]
    exact ⟨h, .inr ⟨rfl, hlast⟩⟩

end Line

/-! ## Cuts -/

/-- Lines as they come from cutting a text: every line is ended, but perhaps the last one, and that
one is then not empty. -/
inductive IsCut : List Line → Prop where
  | nil : IsCut []
  | last {body : List Char} (notMem : '\n' ∉ body) (ne_nil : body ≠ []) : IsCut [⟨body, []⟩]
  | cons {l : Line} {rest : List Line} (ended : l.IsEnded) (isCut : IsCut rest) : IsCut (l :: rest)

/-- A cut of a text: its lines make up the text. -/
structure IsCutOf (list : List Line) (text : List Char) : Prop where
  isCut : IsCut list
  unlines_eq : unlines list = text

theorem isCut_of_forall_isEnded {list : List Line} (h : ∀ l ∈ list, l.IsEnded) : IsCut list := by
  induction list with
  | nil => exact .nil
  | cons l rest ih =>
    rw [List.forall_mem_cons] at h
    exact .cons h.1 (ih h.2)

/-- The lines of a text are a cut. -/
theorem isCut_lines (text : List Char) : IsCut (lines text) := by
  induction text using feed_induction with
  | unfinished body h =>
    by_cases hne : body = []
    · rw [hne, lines_nil]
      exact .nil
    · rw [lines_unfinished h hne, Line.ofText_unfinished h]
      exact .last h hne
  | finished body rest h ih =>
    rw [lines_finished h]
    exact .cons (Line.isEnded_ofText h) ih

@[simp] theorem unlines_nil : unlines [] = [] := rfl

@[simp] theorem unlines_cons (l : Line) (rest : List Line) :
    unlines (l :: rest) = l.text ++ unlines rest := by
  rw [unlines, List.flatMap_cons, unlines]

@[simp] theorem unlines_append (list more : List Line) :
    unlines (list ++ more) = unlines list ++ unlines more :=
  List.flatMap_append

/-- A line that is ended, in front of a text, is the first of its lines. -/
theorem lines_text_append {l : Line} (h : l.IsEnded) (rest : List Char) :
    lines (l.text ++ rest) = l :: lines rest := by
  obtain ⟨front, hfront, htext⟩ := h.exists_text_eq
  rw [htext, List.append_assoc, List.singleton_append, lines_finished hfront, ← htext,
    h.ofText_text]

/-- A cut is what its own text is cut into. -/
theorem lines_unlines {list : List Line} (h : IsCut list) : lines (unlines list) = list := by
  induction h with
  | nil => rfl
  | @last body notMem ne_nil =>
    rw [unlines_cons, unlines_nil, List.append_nil, Line.text, List.append_nil,
      lines_unfinished notMem ne_nil, Line.ofText_unfinished notMem]
  | @cons l rest ended _ ih => rw [unlines_cons, lines_text_append ended, ih]

/-- **The lines of a text are its one cut.** -/
theorem lines_eq_iff {text : List Char} {list : List Line} :
    lines text = list ↔ IsCutOf list text := by
  constructor
  · rintro rfl
    exact ⟨isCut_lines text, unlines_lines text⟩
  · rintro ⟨h, rfl⟩
    exact lines_unlines h

theorem isCutOf_lines (text : List Char) : IsCutOf (lines text) text := lines_eq_iff.1 rfl

/-! ## Texts joined -/

/-- A text behind which a new line begins: it is empty or ends in a line feed. -/
def EndsInFeed (text : List Char) : Prop := text = [] ∨ text.getLast? = some '\n'

theorem endsInFeed_nil : EndsInFeed [] := .inl rfl

theorem EndsInFeed.append {text more : List Char} (h : EndsInFeed text) (hmore : EndsInFeed more) :
    EndsInFeed (text ++ more) := by
  rcases hmore with rfl | hmore
  · rwa [List.append_nil]
  · exact .inr (by rw [List.getLast?_append, hmore]; rfl)

/-- Lines that are all ended make up a text behind which a new line begins. -/
theorem endsInFeed_unlines {list : List Line} (h : ∀ l ∈ list, l.IsEnded) :
    EndsInFeed (unlines list) := by
  induction list with
  | nil => exact endsInFeed_nil
  | cons l rest ih =>
    rw [List.forall_mem_cons] at h
    obtain ⟨front, -, htext⟩ := h.1.exists_text_eq
    rw [unlines_cons]
    refine EndsInFeed.append (.inr ?_) (ih h.2)
    rw [htext, List.getLast?_concat]

/-- **Behind a line feed the cuts stand one behind the other.** -/
theorem lines_append_of_endsInFeed {text : List Char} (h : EndsInFeed text) (more : List Char) :
    lines (text ++ more) = lines text ++ lines more := by
  induction text using feed_induction with
  | unfinished body hbody =>
    rcases h with rfl | h
    · rfl
    · exact absurd (List.mem_of_getLast? h) hbody
  | finished body rest hbody ih =>
    have hrest : EndsInFeed rest := by
      rcases h with h | h
      · simp at h
      · cases hlast : rest.getLast? with
        | none => exact .inl (List.getLast?_eq_none_iff.1 hlast)
        | some c =>
          rw [List.getLast?_append, List.getLast?_cons, hlast] at h
          exact .inr (hlast.trans h)
    rw [List.append_assoc, List.cons_append, lines_finished hbody, lines_finished hbody, ih hrest,
      List.cons_append]

end InterfaceSync.Text
