import MarkupEditor.Proofs.Guarded.Access
import MarkupEditor.Proofs.Session.Selection

/-!
# Selecting and formatting without faults

Selecting and formatting, written with guarded accesses. The one guard of a selection is that its
last line is in the document, and the one guard of a command is the same for its selection. From it
follow all places and sums of places that are reckoned on the way: the first line comes no later than
the last one, and lines are added only at places that have been passed. So nothing but the version can
be a fault, and it is one only at the largest version there is.
-/

namespace MarkupEditor

namespace Document

@[simp]
theorem lineCount_setText (doc : Document) (index : Nat) (text : Text) :
    (doc.setText index text).lineCount = doc.lineCount := by
  simp [setText, lineCount]

@[simp]
theorem lineCount_rewriteLines (doc : Document) (command : Command) (first last : Nat) :
    (doc.rewriteLines command first last).lineCount = doc.lineCount := by
  simp [rewriteLines, lineCount]

theorem setText_self {doc : Document} {place : Nat} {line : Line}
    (hline : doc.line? place = some line) : doc.setText place line.text = doc := by
  have hlines : (doc.setText place line.text).lines = doc.lines := by
    have hget : doc.lines[place]? = some line := hline
    apply List.ext_getElem?
    intro i
    by_cases hi : place = i
    · subst hi
      simp [setText, hget]
    · simp [setText, hi]
  exact congrArg (Document.mk · doc.version) hlines

theorem version_formatLine (doc : Document) (command : Command) (line : Line)
    (selection : Selection) : (doc.formatLine command line selection).2.version = doc.version := by
  simp only [formatLine]
  split
  · rfl
  · split
    · rfl
    · split <;> rfl

theorem version_formatBlock (doc : Document) (command : Command) (selection : Selection) :
    (doc.formatBlock command selection).2.version = doc.version := by
  unfold formatBlock
  split <;> rfl

end Document

namespace Guarded

/-- The largest version that 64 bits hold. -/
def maxVersion : Nat :=
  UInt64.size - 1

/-! ### Selecting -/

/-- The endpoints by their lines, and by their offsets within one line. -/
def ordered (anchor focus : Position) : Position × Position :=
  if anchor.line < focus.line ∨ anchor.line = focus.line ∧ anchor.offset ≤ focus.offset then
    (anchor, focus)
  else (focus, anchor)

def select (doc : Document) (anchor focus : Position) : Guarded (Option Selection) := do
  let startLine := (ordered anchor focus).1.line
  let endLine := (ordered anchor focus).2.line
  if doc.lineCount ≤ endLine then return none
  let lines ← segment doc.lines startLine endLine
  let startOffset := min anchor.offset focus.offset
  let endOffset := max anchor.offset focus.offset
  match lines with
  | [line] =>
    let startOffset := min startOffset line.length
    let endOffset := min endOffset line.length
    if endOffset = 0 ∧ !line.isBlank then return none
    let rawText ← slice line.text startOffset endOffset
    return some { startLine, endLine, startOffset, endOffset, lines := [line], rawText }
  | lines =>
    let rawText := Text.unlines (lines.map Line.text)
    return some { startLine, endLine, startOffset, endOffset, lines, rawText }

theorem ordered_lines (anchor focus : Position) :
    (ordered anchor focus).1.line = min anchor.line focus.line ∧
      (ordered anchor focus).2.line = max anchor.line focus.line := by
  unfold ordered
  split <;> simp only <;> omega

/-- The lines are in order and in the document, so selecting is without faults. -/
theorem select_eq (doc : Document) (anchor focus : Position) :
    select doc anchor focus = .ok (doc.select anchor focus) := by
  obtain ⟨hstart, hstop⟩ := ordered_lines anchor focus
  by_cases hcount : doc.lineCount ≤ max anchor.line focus.line
  · simp only [select, Document.select, hstop, hcount, ↓reduceIte, pure_eq]
  · have hlines : segment doc.lines (min anchor.line focus.line) (max anchor.line focus.line) =
        .ok (doc.linesBetween (min anchor.line focus.line) (max anchor.line focus.line)) :=
      segment_eq (by omega) (Nat.lt_of_not_le hcount)
    simp only [select, Document.select, hstart, hstop, hcount, ↓reduceIte, hlines, ok_bind]
    match doc.linesBetween (min anchor.line focus.line) (max anchor.line focus.line) with
    | [] => rfl
    | _ :: _ :: _ => rfl
    | [line] =>
        simp only [slice_eq, ok_bind, pure_eq]
        split <;> rfl

/-! ### Formatting -/

def insertLines (doc : Document) (place : Nat) (texts : List Text) : Guarded Document := do
  let place ← upTo doc.lineCount (min place doc.lineCount)
  return doc.insertLines place texts

/-- Counts a change and reports the lines it wrote. -/
def commit (doc : Document) (changed : LineRange) : Guarded (Patch × Document) :=
  if doc.version < maxVersion then .ok (doc.commit changed) else .error .version

/-- So many lines of the document. -/
def lineRange (doc : Document) (start stop : Nat) : Guarded LineRange := do
  let stop ← upTo doc.lineCount stop
  return ⟨start, stop⟩

def formatLine (doc : Document) (command : Command) (selection : Selection) :
    Guarded (LineRange × Document) := do
  let index := selection.startLine
  let start := selection.startOffset
  let stop := selection.endOffset
  let line ← item doc.lines index
  let selected ← slice line.text start stop
  let row ← row command
  let markup := row.markup selected
  if row.replacesLine then
    let next := doc.setText index markup
    return (← lineRange next index (index + 1), next)
  else if start < stop then
    let line ← item doc.lines index
    let text ← splice line.text start stop markup
    let next := doc.setText index text
    return (← lineRange next index (index + 1), next)
  else if 0 < stop then
    let below ← upTo doc.lineCount (index + 1)
    let next ← insertLines doc below [markup]
    return (← lineRange next below (index + 2), next)
  else
    let next := doc.setText index markup
    return (← lineRange next index (index + 1), next)

/-- Rewrites one line of a block, so many lines below the first. -/
def rewriteLine (command : Command) (first : Nat) (doc : Document) (place : Nat) :
    Guarded Document := do
  let line ← item doc.lines (first + place)
  let counter ← upTo doc.lineCount (place + 1)
  let row ← row command
  match row.markupLine? line.text counter with
  | some text => return doc.setText (first + place) text
  | none => return doc

def rewriteLines (doc : Document) (command : Command) (first last : Nat) : Guarded Document :=
  (List.range (last + 1 - first)).foldlM (rewriteLine command first) doc

def formatBlock (doc : Document) (command : Command) (selection : Selection) :
    Guarded (LineRange × Document) := do
  let first := selection.startLine
  let last := selection.endLine
  let doc ← rewriteLines doc command first last
  let row ← row command
  if row.padsBlock then
    let below ← upTo doc.lineCount (last + 1)
    let doc ← insertLines doc below [[]]
    let doc ← insertLines doc first [[]]
    return (← lineRange doc first (last + 3), doc)
  else
    return (← lineRange doc first (last + 1), doc)

def format (doc : Document) (command : Command) (selection : Selection) :
    Guarded (Option (Patch × Document)) := do
  if doc.lineCount ≤ selection.endLine then return none
  let (changed, doc) ←
    if selection.isMultiline then formatBlock doc command selection
    else formatLine doc command selection
  return some (← commit doc changed)

section Lines

variable {doc : Document}

theorem insertLines_eq (doc : Document) (place : Nat) (texts : List Text) :
    insertLines doc place texts = .ok (doc.insertLines place texts) := by
  have hplace : min place doc.lineCount ≤ doc.lineCount := Nat.min_le_right _ _
  have hmin : min (min place doc.lineCount) doc.lineCount = min place doc.lineCount :=
    Nat.min_eq_left hplace
  simp only [insertLines, upTo_eq hplace, ok_bind, pure_eq, Document.insertLines, hmin]

theorem lineRange_eq {start stop : Nat} (hstop : stop ≤ doc.lineCount) :
    lineRange doc start stop = .ok ⟨start, stop⟩ := by
  rw [lineRange, upTo_eq hstop, ok_bind, pure_eq]

end Lines

theorem formatLine_eq {doc : Document} {selection : Selection} {line : Line} (command : Command)
    (hline : doc.line? selection.startLine = some line) :
    formatLine doc command selection = .ok (doc.formatLine command line selection) := by
  obtain ⟨hindex, -⟩ := List.getElem?_eq_some_iff.mp hline
  have hcount : selection.startLine + 1 ≤ doc.lineCount := hindex
  have hset : ∀ text, lineRange (doc.setText selection.startLine text) selection.startLine
      (selection.startLine + 1) = .ok ⟨selection.startLine, selection.startLine + 1⟩ := by
    intro text
    exact lineRange_eq (by rwa [Document.lineCount_setText])
  have hinsert : ∀ text, lineRange (doc.insertLines (selection.startLine + 1) [text])
      (selection.startLine + 1) (selection.startLine + 2) =
        .ok ⟨selection.startLine + 1, selection.startLine + 2⟩ := by
    intro text
    apply lineRange_eq
    rw [Document.lineCount_insertLines hcount, List.length_singleton]
    omega
  simp only [formatLine, Document.formatLine, item_eq hline, slice_eq, splice_eq, row_eq, Row.of,
    upTo_eq hcount, insertLines_eq, hset, hinsert, ok_bind, pure_eq]
  split
  · rfl
  · split
    · rfl
    · split <;> rfl

section Block

variable {doc : Document} {command : Command} {first last count : Nat} {line : Line}

/-- The document with so many of its lines rewritten, from the first one of the block on. -/
def rewritten (doc : Document) (command : Command) (first count : Nat) : Document :=
  let rewrite (place : Nat) (line : Line) : Line :=
    if first ≤ place ∧ place < first + count then
      { line with text := (command.markupLine? line.text (place - first + 1)).getD line.text }
    else line
  { doc with lines := doc.lines.mapIdx rewrite }

theorem rewritten_zero (doc : Document) (command : Command) (first : Nat) :
    rewritten doc command first 0 = doc := by
  have hlines : (rewritten doc command first 0).lines = doc.lines := by
    apply List.ext_getElem?
    intro i
    have hout : ¬ (first ≤ i ∧ i < first) := by omega
    simp [rewritten, hout]
  exact congrArg (Document.mk · doc.version) hlines

theorem rewritten_eq_rewriteLines (hle : first ≤ last) :
    rewritten doc command first (last + 1 - first) = doc.rewriteLines command first last := by
  have hin : ∀ place, (first ≤ place ∧ place < first + (last + 1 - first)) ↔
      (first ≤ place ∧ place ≤ last) := by
    intro place
    omega
  simp only [rewritten, Document.rewriteLines, hin]

/-- One more line is rewritten by overwriting it. -/
theorem rewritten_succ (hline : doc.line? (first + count) = some line) :
    rewritten doc command first (count + 1) =
      (rewritten doc command first count).setText (first + count)
        ((command.markupLine? line.text (count + 1)).getD line.text) := by
  have hget : doc.lines[first + count]? = some line := hline
  have hlines : (rewritten doc command first (count + 1)).lines =
      ((rewritten doc command first count).setText (first + count)
        ((command.markupLine? line.text (count + 1)).getD line.text)).lines := by
    apply List.ext_getElem?
    intro i
    by_cases hi : first + count = i
    · subst hi
      simp [rewritten, Document.setText, hget]
    · have hsame : (first ≤ i ∧ i < first + (count + 1)) ↔ (first ≤ i ∧ i < first + count) := by
        omega
      simp [rewritten, Document.setText, hi, hsame]
  exact congrArg (Document.mk · doc.version) hlines

/-- One pass of the loop, on the line that comes next. -/
theorem rewriteLine_rewritten (hline : doc.line? (first + count) = some line) :
    rewriteLine command first (rewritten doc command first count) count =
      .ok (rewritten doc command first (count + 1)) := by
  have hpresent : (rewritten doc command first count).line? (first + count) = some line := by
    have hget : doc.lines[first + count]? = some line := hline
    simp [rewritten, Document.line?, hget]
  have hcounter : count + 1 ≤ (rewritten doc command first count).lineCount := by
    have hlt := (List.getElem?_eq_some_iff.mp hpresent).1
    rw [Document.lineCount]
    omega
  have hself := Document.setText_self hpresent
  rw [rewritten_succ hline]
  simp only [rewriteLine, item_eq hpresent, upTo_eq hcounter, row_eq, Row.of, ok_bind, pure_eq]
  cases command.markupLine? line.text (count + 1) with
  | none => rw [Option.getD_none, hself]
  | some text => rfl

/-- The loop rewrites line after line. -/
theorem foldlM_rewriteLine (hcount : first + count ≤ doc.lineCount) :
    (List.range count).foldlM (rewriteLine command first) doc =
      .ok (rewritten doc command first count) := by
  induction count with
  | zero => simp [rewritten_zero]
  | succ count ih =>
      obtain ⟨line, hline⟩ := Document.exists_line? (show first + count < doc.lineCount by omega)
      rw [List.range_succ, List.foldlM_append, ih (by omega), ok_bind, List.foldlM_cons,
        rewriteLine_rewritten hline]
      rfl

theorem rewriteLines_eq (hle : first ≤ last) (hlast : last < doc.lineCount) :
    rewriteLines doc command first last = .ok (doc.rewriteLines command first last) := by
  rw [rewriteLines, foldlM_rewriteLine (by omega), rewritten_eq_rewriteLines hle]

theorem formatBlock_eq {selection : Selection} (hle : selection.startLine ≤ selection.endLine)
    (hlast : selection.endLine < doc.lineCount) :
    formatBlock doc command selection = .ok (doc.formatBlock command selection) := by
  obtain ⟨next, hnext⟩ : ∃ next,
      doc.rewriteLines command selection.startLine selection.endLine = next := ⟨_, rfl⟩
  have hcount : next.lineCount = doc.lineCount := by
    rw [← hnext, Document.lineCount_rewriteLines]
  have hbelow : selection.endLine + 1 ≤ next.lineCount := by omega
  have hstop : lineRange ((next.insertLines (selection.endLine + 1) [[]]).insertLines
      selection.startLine [[]]) selection.startLine (selection.endLine + 3) =
        .ok ⟨selection.startLine, selection.endLine + 3⟩ := by
    have hinserted := @Document.lineCount_insertLines next _ [[]] hbelow
    apply lineRange_eq
    rw [Document.lineCount_insertLines (by omega), hinserted, List.length_singleton]
    omega
  simp only [formatBlock, Document.formatBlock, rewriteLines_eq hle hlast, hnext, row_eq, Row.of,
    upTo_eq hbelow, insertLines_eq, hstop, lineRange_eq hbelow, ok_bind, pure_eq]
  split <;> rfl

end Block

section Format

variable {doc : Document} {command : Command} {selection : Selection}

/-- A command is without faults as long as there is a next version. -/
theorem format_eq (doc : Document) (command : Command)
    (hle : selection.startLine ≤ selection.endLine) :
    format doc command selection =
      if doc.lineCount ≤ selection.endLine ∨ doc.version < maxVersion then
        .ok (doc.format command selection)
      else .error .version := by
  by_cases hcount : doc.lineCount ≤ selection.endLine
  · simp only [format, Document.format_eq, hcount, ↓reduceIte, true_or, pure_eq]
  · have hlast : selection.endLine < doc.lineCount := Nat.lt_of_not_le hcount
    obtain ⟨line, hline⟩ := Document.exists_line? (Nat.lt_of_le_of_lt hle hlast)
    have hblock := @formatBlock_eq doc command selection hle hlast
    have hsingle := formatLine_eq command hline
    cases hmultiline : selection.isMultiline with
    | true =>
        simp only [format, Document.format_eq, hcount, hmultiline, hblock, commit,
          Document.version_formatBlock, ↓reduceIte, false_or, ok_bind, pure_eq]
        split <;> rfl
    | false =>
        simp only [format, Document.format_eq, hcount, hmultiline, hsingle, hline, commit,
          Document.version_formatLine, Bool.false_eq_true, ↓reduceIte, false_or, ok_bind, pure_eq]
        split <;> rfl

/-- Lines that the document does not have are a fault of the block itself, so the guard in front of it
is needed. -/
example : formatBlock .empty .blockquote ⟨0, 1, 0, 0, [], []⟩ = .error .place := by
  decide

end Format

end Guarded

end MarkupEditor
