import InterfaceSync.Text.Grapheme
import InterfaceSync.Text.LetterCase

/-!
# Model names and interface names

A model may be named `blog_post`, `BlogPost`, `blog-post` or `Blog Post`; all of these stand for the
same model.  What they share is their words.  A name is cut into words at underscores, hyphens and
blanks, which are dropped, and between two characters where the case or the kind of character changes
the way it does at the start of a word.  The interface of a model is named by its words capitalised
and joined (`BlogPost`), and a model is looked up by its words in lower case with underscores between
(`blog_post`).

Empty words count: `blog__post` has three words, the middle one empty, and a leading underscore is
a word of its own.  They do not show in the interface name and do show in the lookup key.
-/

namespace InterfaceSync.Naming

open Text

/-- A character as a reader sees it, see `Text.clusters`. -/
abbrev Cluster := List Char

/-- The clusters between two words. -/
def isSeparator (g : Cluster) : Bool :=
  g == ['_'] || g == ['-'] || g == [' ']

/-- A cluster is upper case if it has a case and is unchanged by the mapping to upper case. -/
def isUpper (g : Cluster) : Bool :=
  upper g != lower g && g == upper g

/-- A cluster is lower case if it has a case and is unchanged by the mapping to lower case. -/
def isLower (g : Cluster) : Bool :=
  upper g != lower g && g == lower g

/-- The digits that count as such are those of ASCII. -/
def isDigit (g : Cluster) : Bool :=
  g.all Char.isDigit

/-- Whether a word ends behind the cluster `g`, given what stands behind it: `aB`, `ABc`, and every
change between a letter and a digit. -/
def endsWord (g : Cluster) : List Cluster → Bool
  | [] => false
  | next :: rest =>
    (isLower g && isUpper next)
      || (isUpper g && isUpper next && (rest.head?.any isLower))
      || ((isLower g || isUpper g) && isDigit next)
      || (isDigit g && (isLower next || isUpper next))

/-- The words of a name, when `word` is the one begun in front of it, last cluster first. -/
def wordsFrom (word : List Cluster) : List Cluster → List (List Cluster)
  | [] => [word.reverse]
  | g :: rest =>
    if isSeparator g then word.reverse :: wordsFrom [] rest
    else if endsWord g rest then (g :: word).reverse :: wordsFrom [] rest
    else wordsFrom (g :: word) rest

/-- The words of a name, as clusters. -/
def words (name : List Char) : List (List Cluster) :=
  wordsFrom [] (clusters name)

/-- A word with its first character in upper case and everything else in lower case.  A mark on the
first character is part of the rest. -/
def capitalised : List Char → List Char
  | [] => []
  | c :: rest => upperChar c ++ lower rest

/-- The name of the interface that belongs to a name: its words capitalised and joined. -/
def pascal (name : String) : String :=
  String.ofList ((words name.toList).flatMap fun w => capitalised w.flatten)

/-- The key under which a name is looked up: its words in lower case, underscores between. -/
def snake (name : String) : String :=
  String.ofList (List.intercalate ['_'] ((words name.toList).map fun w => lower w.flatten))

end InterfaceSync.Naming
