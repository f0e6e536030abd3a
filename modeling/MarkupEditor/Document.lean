import MarkupEditor.Text

/-!
# Documents

A document is a sequence of lines and a version. A line knows its place in the sequence; the place
is not an identity, so inserting lines renumbers everything from the insertion on. A document read
from text has at least one line, and the empty text is one empty line.
-/

namespace MarkupEditor

/-- A line and its place in the document. -/
structure Line where
  index : Nat
  text : Text
deriving DecidableEq, Repr

namespace Line

def length (line : Line) : Nat :=
  line.text.length

def isBlank (line : Line) : Bool :=
  line.text.isEmpty

def enumerate (texts : List Text) : List Line :=
  texts.mapIdx Line.mk

end Line

structure Document where
  lines : List Line
  version : Nat
deriving DecidableEq, Repr

namespace Document

def ofText (text : Text) : Document where
  lines := Line.enumerate text.lines
  version := 0

/-- The document of no text: one empty line. -/
def empty : Document :=
  ofText []

def texts (doc : Document) : List Text :=
  doc.lines.map Line.text

def text (doc : Document) : Text :=
  Text.unlines doc.texts

def line? (doc : Document) (index : Nat) : Option Line :=
  doc.lines[index]?

def lineCount (doc : Document) : Nat :=
  doc.lines.length

/-- Overwrites the text of a line. A line that does not exist stays so. -/
def setText (doc : Document) (index : Nat) (text : Text) : Document :=
  { doc with lines := doc.lines.modify index fun line => { line with text } }

/-- Numbers the lines from `start` on by their places. -/
def reindexFrom (start : Nat) (lines : List Line) : List Line :=
  lines.mapIdx fun place line => if place < start then line else { line with index := place }

/-- Inserts lines so that the first of them lands at `place`, or at the end if that is further. -/
def insertLines (doc : Document) (place : Nat) (texts : List Text) : Document :=
  let place := min place doc.lineCount
  let inserted := texts.map (Line.mk 0)
  { doc with
    lines := reindexFrom place (doc.lines.take place ++ inserted ++ doc.lines.drop place) }

def replaceText (doc : Document) (text : Text) : Document :=
  { doc with lines := (ofText text).lines }

def bump (doc : Document) : Document :=
  { doc with version := doc.version + 1 }

end Document

/-- The lines from `start` up to but not including `stop`. -/
structure LineRange where
  start : Nat
  stop : Nat
deriving DecidableEq, Repr

/-- What an accepted change reports: the lines it wrote, by their new places, and the version it
made. -/
structure Patch where
  changed : LineRange
  version : Nat
deriving DecidableEq, Repr

/-- Counts a change and reports the lines it wrote. -/
def Document.commit (doc : Document) (changed : LineRange) : Patch × Document :=
  let doc := doc.bump
  (⟨changed, doc.version⟩, doc)

end MarkupEditor
