/-!
# Lines of a document

A document is cut behind each line feed.  A line is its body and its ending, which is a line feed with
or without a carriage return in front of it, or nothing for a last line that is not ended.  The cut
loses nothing: the lines put together are the document.
-/

namespace InterfaceSync.Text

/-- A line of a document. -/
structure Line where
  body : List Char
  ending : List Char
  deriving DecidableEq, Repr

namespace Line

/-- A line as it stands in the document. -/
def text (l : Line) : List Char := l.body ++ l.ending

/-- Parts the body of a line from its ending. -/
def ofText (raw : List Char) : Line :=
  match raw.reverse with
  | '\n' :: '\r' :: body => ⟨body.reverse, ['\r', '\n']⟩
  | '\n' :: body => ⟨body.reverse, ['\n']⟩
  | _ => ⟨raw, []⟩

@[simp] theorem text_ofText (raw : List Char) : (ofText raw).text = raw := by
  unfold ofText
  split
  · rename_i body h
    rw [← List.reverse_reverse raw, h]
    simp [text]
  · rename_i body h
    rw [← List.reverse_reverse raw, h]
    simp [text]
  · simp [text]

end Line

/-- A text cut behind each line feed; no piece is empty. -/
def cutBehindFeeds : List Char → List (List Char)
  | [] => []
  | c :: rest =>
    if c = '\n' then [c] :: cutBehindFeeds rest
    else
      match cutBehindFeeds rest with
      | [] => [[c]]
      | piece :: pieces => (c :: piece) :: pieces

theorem flatten_cutBehindFeeds (text : List Char) : (cutBehindFeeds text).flatten = text := by
  induction text with
  | nil => rfl
  | cons c rest ih =>
    simp only [cutBehindFeeds]
    split
    · simp [ih]
    · split
      · rename_i h
        rw [h] at ih
        simp [← ih]
      · rename_i piece pieces h
        rw [h] at ih
        simp [← ih]

/-- The lines of a text. -/
def lines (text : List Char) : List Line :=
  (cutBehindFeeds text).map Line.ofText

/-- The text that consists of the given lines. -/
def unlines (list : List Line) : List Char :=
  list.flatMap Line.text

@[simp] theorem lines_nil : lines [] = [] := rfl

/-- The lines of a text put together are the text. -/
theorem unlines_lines (text : List Char) : unlines (lines text) = text := by
  have h : ∀ pieces : List (List Char), (pieces.map Line.ofText).flatMap Line.text = pieces.flatten := by
    intro pieces
    induction pieces with
    | nil => rfl
    | cons piece rest ih => simp [ih]
  rw [unlines, lines, h, flatten_cutBehindFeeds]

end InterfaceSync.Text
