import InterfaceSync.Text.Grapheme.BreakClass

/-!
# Grapheme clusters

Names are cut into words cluster by cluster, so that an accent never parts from its letter.  The rule
of the standard is read here from left to right: what the text in front of a border says is kept in a
small state, and `Border.joins` tells from it and from the class of the next character whether the two
belong to one cluster.
-/

namespace InterfaceSync.Text

/-- What the text in front of a border may go on with: a pictograph behind a joined one, or a consonant
behind one that is linked to it.  The marks behind a pictograph or a consonant do not end such a run. -/
inductive Run where
  | absent
  | pictograph
  | joinedPictograph
  | consonant
  | linkedConsonant
  deriving DecidableEq, Repr

namespace Run

/-- The run that begins with a character. -/
def start : BreakClass → Run
  | .pictograph => .pictograph
  | .consonant => .consonant
  | _ => .absent

/-- The run behind one more character.  What links consonants must stand behind a consonant, and a
non-joiner keeps them apart. -/
def advance (run : Run) (k : BreakClass) : Run :=
  match run, k with
  | .pictograph, .extending | .pictograph, .linker | .pictograph, .nonJoiner => .pictograph
  | .pictograph, .joiner => .joinedPictograph
  | .consonant, .extending | .consonant, .joiner => .consonant
  | .consonant, .linker => .linkedConsonant
  | .linkedConsonant, .extending | .linkedConsonant, .joiner | .linkedConsonant, .linker =>
    .linkedConsonant
  | _, k => start k

/-- Whether a run goes on with a character. -/
def goesOn : Run → BreakClass → Bool
  | .joinedPictograph, .pictograph | .linkedConsonant, .consonant => true
  | _, _ => false

end Run

/-- What the text in front of a border says: the class of its last character, whether it ends with
an odd number of regional indicators, and the run that it ends with. -/
structure Border where
  last : BreakClass
  oddRegionals : Bool
  run : Run

namespace Border

/-- The border behind the first character of a cluster. -/
def start (k : BreakClass) : Border :=
  ⟨k, k == .regional, .start k⟩

/-- The border behind one more character of the same cluster. -/
def advance (b : Border) (k : BreakClass) : Border where
  last := k
  oddRegionals := k == .regional && !b.oddRegionals
  run := b.run.advance k

/-- Whether a Hangul syllable goes on. -/
def hangulGoesOn : BreakClass → BreakClass → Bool
  | .hangulLead, .hangulLead | .hangulLead, .hangulVowel
  | .hangulLead, .hangulOpen | .hangulLead, .hangulClosed
  | .hangulOpen, .hangulVowel | .hangulOpen, .hangulTail
  | .hangulVowel, .hangulVowel | .hangulVowel, .hangulTail
  | .hangulClosed, .hangulTail | .hangulTail, .hangulTail => true
  | _, _ => false

/-- Whether the character behind a border belongs to the cluster in front of it. -/
def joins (b : Border) (k : BreakClass) : Bool :=
  if b.last == .carriageReturn && k == .lineFeed then true
  else if b.last.isControl || k.isControl then false
  else hangulGoesOn b.last k
    || k.isExtending || k == .joiner || k == .spacing
    || b.last == .leading
    || b.run.goesOn k
    || (b.oddRegionals && k == .regional)

end Border

/-- The clusters of a text, when `cluster` is the one begun in front of it, last character first. -/
def clustersFrom (border : Border) (cluster : List Char) : List Char → List (List Char)
  | [] => [cluster.reverse]
  | c :: rest =>
    let k := BreakClass.ofChar c
    if border.joins k then clustersFrom (border.advance k) (c :: cluster) rest
    else cluster.reverse :: clustersFrom (.start k) [c] rest

/-- The grapheme clusters of a text, in order. -/
def clusters : List Char → List (List Char)
  | [] => []
  | c :: rest => clustersFrom (.start (.ofChar c)) [c] rest

theorem flatten_clustersFrom (border : Border) (cluster text : List Char) :
    (clustersFrom border cluster text).flatten = cluster.reverse ++ text := by
  induction text generalizing border cluster with
  | nil => simp [clustersFrom]
  | cons c rest ih =>
    simp only [clustersFrom]
    split
    · simp [ih]
    · simp [ih]

/-- The clusters are a division of the text: nothing is lost and nothing is added. -/
theorem flatten_clusters (text : List Char) : (clusters text).flatten = text := by
  cases text with
  | nil => rfl
  | cons c rest => simp [clusters, flatten_clustersFrom]

end InterfaceSync.Text
