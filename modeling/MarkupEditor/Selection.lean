import MarkupEditor.Document
import MarkupEditor.Position
import MarkupEditor.Text.Span

/-!
# Selections

A selection is what two endpoints of a document amount to. It keeps a copy of the lines it spans, so
it can be applied later, and to another document. The offsets of a selection within one line are
clamped to the line; those of a selection over several lines are kept as reported.
-/

namespace MarkupEditor

structure Selection where
  startLine : Nat
  endLine : Nat
  startOffset : Nat
  endOffset : Nat
  /-- The spanned lines as they were when the selection was made. -/
  lines : List Line
  /-- The selected characters of one line, or all spanned lines joined by line feeds. -/
  rawText : Text
deriving DecidableEq, Repr

namespace Selection

def isCaret (selection : Selection) : Bool :=
  selection.startOffset == selection.endOffset

def isMultiline (selection : Selection) : Bool :=
  selection.lines.length > 1

end Selection

namespace Document

def linesBetween (doc : Document) (first last : Nat) : List Line :=
  (doc.lines.take (last + 1)).drop first

/-- The selection between two endpoints, in either order. There is none if a line is missing, and
none for a caret at the start of a line that holds text, where a command would replace the line. -/
def select (doc : Document) (anchor focus : Position) : Option Selection :=
  let startLine := min anchor.line focus.line
  let endLine := max anchor.line focus.line
  let startOffset := min anchor.offset focus.offset
  let endOffset := max anchor.offset focus.offset
  if doc.lineCount ≤ endLine then none
  else match doc.linesBetween startLine endLine with
    | [line] =>
      let startOffset := min startOffset line.length
      let endOffset := min endOffset line.length
      if endOffset = 0 ∧ !line.isBlank then none
      else
        let rawText := line.text.slice startOffset endOffset
        some { startLine, endLine, startOffset, endOffset, lines := [line], rawText }
    | lines =>
      let rawText := Text.unlines (lines.map Line.text)
      some { startLine, endLine, startOffset, endOffset, lines, rawText }

end Document

end MarkupEditor
