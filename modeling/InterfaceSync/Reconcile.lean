import InterfaceSync.Naming
import InterfaceSync.Reconcile.Heading
import InterfaceSync.Reconcile.FieldLine
import InterfaceSync.Text.Lines

/-!
# Reconciliation of a document with the required fields of a model

The document is text that people edit, so it is not parsed.  It is read line by line, once, with the
braces counted.  The block of the model begins at the first line that is the heading of its interface
and ends at the first line, that one included, on which as many braces are closed as have been opened,
at least one having been opened.  On the lines in between, at a positive depth, every line that
declares a field gets its question mark set or removed.  All other lines stay as they are, and so do
all line endings.

Later blocks of the same name are not touched.  If the braces never balance, the block goes on to the
end of the document.

The heading of a name of any length is looked for, so that a reconciliation always has a report.  A
limit on the size of the pattern that a heading is matched with, by which a name of some hundred thousand
characters would be refused with an error, is left out.
-/

namespace InterfaceSync.Reconcile

open Text

/-- Where a reading of the document stands between two lines: in front of the block, inside it at some
depth, with a brace opened so far or not, or behind it. -/
inductive Phase where
  | searching
  | inside (depth : Int) (opened : Bool)
  | done
  deriving DecidableEq, Repr

/-- How many braces a line opens. -/
def opened (body : List Char) : Nat := body.count '\x7b'

/-- How many more braces a line opens than it closes. -/
def balance (body : List Char) : Int := (body.count '\x7b' : Int) - (body.count '\x7d' : Int)

namespace Phase

/-- The phase at a depth: the block is over once a brace has been opened and none is left open. -/
def atDepth (depth : Int) (hasOpened : Bool) : Phase :=
  if hasOpened = true ∧ depth ≤ 0 then .done else .inside depth hasOpened

/-- The phase behind a line. -/
def next (interfaceName : List Char) (phase : Phase) (body : List Char) : Phase :=
  match phase with
  | .done => .done
  | .searching =>
    if Heading.opens interfaceName body then atDepth (balance body) (decide (0 < opened body))
    else .searching
  | .inside depth hasOpened =>
    atDepth (depth + balance body) (hasOpened || decide (0 < opened body))

/-- Whether a line is read as a declaration, given the phase in front of it and the one behind it. -/
def declaresBetween : Phase → Phase → Bool
  | .inside _ _, .inside depth _ => decide (0 < depth)
  | _, _ => false

end Phase

/-- The body of a line that is rewritten, given the phase in front of it and the one behind it. -/
def Phase.rewrite? (required : List String) (before after : Phase) (body : List Char) :
    Option (List Char) :=
  if before.declaresBetween after then FieldLine.rewrite? required body else none

/-- One reading of the lines: the lines with the question marks settled, the phase behind the last one,
and how many of them were rewritten. -/
def scanLines (interfaceName : List Char) (required : List String) :
    Phase → List Line → (List Line × Phase) × Nat
  | phase, [] => (([], phase), 0)
  | phase, l :: rest =>
    let after := phase.next interfaceName l.body
    let ((lines, last), changed) := scanLines interfaceName required after rest
    match phase.rewrite? required after l.body with
    | some body => ((⟨body, l.ending⟩ :: lines, last), changed + 1)
    | none => ((l :: lines, last), changed)

/-- What a reconciliation did: the new text, whether there was a block, on how many lines a question
mark changed, and whether the block was still open at the end. -/
structure Report where
  text : List Char
  blockFound : Bool
  changedLines : Nat
  unterminated : Bool
  deriving DecidableEq, Repr

/-- Reconciles the text of a document with the required fields of the model of the given name. -/
def run (modelName : String) (required : List String) (text : List Char) : Report :=
  let ((after, last), changed) :=
    scanLines (Naming.pascal modelName).toList required .searching (lines text)
  { text := unlines after
    blockFound := last != .searching
    changedLines := changed
    unterminated := match last with | .inside _ _ => true | _ => false }

end InterfaceSync.Reconcile
