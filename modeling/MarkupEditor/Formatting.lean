import MarkupEditor.Command
import MarkupEditor.Selection

/-!
# Applying a command

A command is applied to the lines that a selection names, with the text they have now: the selection
may have been made on an earlier state or on another document, and only its line numbers and offsets
count.
-/

namespace MarkupEditor.Document

/-- Applies a command within one line. A range is replaced by its markup, a caret behind the first
column gets the markup of nothing on a new line below, and at the first column the markup takes the
place of the line. -/
def formatLine (doc : Document) (command : Command) (line : Line) (selection : Selection) :
    LineRange × Document :=
  let index := selection.startLine
  let start := selection.startOffset
  let stop := selection.endOffset
  let markup := command.markup (line.text.slice start stop)
  if command.replacesLine then (⟨index, index + 1⟩, doc.setText index markup)
  else if start < stop then
    (⟨index, index + 1⟩, doc.setText index (line.text.splice start stop markup))
  else if 0 < stop then (⟨index + 1, index + 2⟩, doc.insertLines (index + 1) [markup])
  else (⟨index, index + 1⟩, doc.setText index markup)

/-- Rewrites the lines from `first` to `last`, numbering them from one. -/
def rewriteLines (doc : Document) (command : Command) (first last : Nat) : Document :=
  let rewrite (place : Nat) (line : Line) : Line :=
    if first ≤ place ∧ place ≤ last then
      { line with text := (command.markupLine? line.text (place - first + 1)).getD line.text }
    else line
  { doc with lines := doc.lines.mapIdx rewrite }

/-- Applies a command to several lines. A block that is set off gets one blank line below it and one
above it. -/
def formatBlock (doc : Document) (command : Command) (selection : Selection) :
    LineRange × Document :=
  let first := selection.startLine
  let last := selection.endLine
  let doc := doc.rewriteLines command first last
  if command.padsBlock then
    (⟨first, last + 3⟩, (doc.insertLines (last + 1) [[]]).insertLines first [[]])
  else (⟨first, last + 1⟩, doc)

/-- Applies a command to the document in place. Nothing comes of it without a selection, and nothing
if the selection ends beyond the document. -/
def formatM (command : Command) (selection? : Option Selection) :
    StateM Document (Option Patch) := do
  let some selection := selection? | return none
  if (← get).lineCount ≤ selection.endLine then return none
  if selection.isMultiline then
    let changed ← modifyGet fun doc => doc.formatBlock command selection
    return some (← modifyGet fun doc => doc.commit changed)
  else
    let some line := (← get).line? selection.startLine | return none
    let changed ← modifyGet fun doc => doc.formatLine command line selection
    return some (← modifyGet fun doc => doc.commit changed)

/-- What a command makes of a document, if it has an effect. -/
def format (doc : Document) (command : Command) (selection : Selection) :
    Option (Patch × Document) :=
  let (patch?, next) := (formatM command (some selection)).run doc
  patch?.map fun patch => (patch, next)

end MarkupEditor.Document
