import MarkupEditor.Proofs.Text.Span
import MarkupEditor.Selection

/-!
# Selections that are still current

A selection copies the lines it spans and the text it covers. It is current on a document that still
holds both at the places it names. A selection is current on the document it was made on, and stays
so as long as no line up to its last one changes.
-/

namespace MarkupEditor

namespace Document

variable {doc : Document}

theorem length_segment {α : Type} {items : List α} {first last : Nat}
    (hlast : last < items.length) :
    ((items.take (last + 1)).drop first).length = last + 1 - first := by
  rw [List.length_drop, List.length_take, Nat.min_eq_left hlast]

theorem length_linesBetween {first last : Nat} (hlast : last < doc.lineCount) :
    (doc.linesBetween first last).length = last + 1 - first :=
  length_segment hlast

theorem linesBetween_self {index : Nat} {line : Line} (hline : doc.line? index = some line) :
    doc.linesBetween index index = [line] := by
  obtain ⟨hlt, hget⟩ := List.getElem?_eq_some_iff.mp hline
  have hlength : (doc.lines.take index).length = index := by
    rw [List.length_take]
    omega
  rw [linesBetween, List.take_succ_eq_append_getElem hlt, hget, List.drop_append_of_le_length (by omega)]
  simp

theorem map_text_linesBetween (first last : Nat) :
    (doc.linesBetween first last).map Line.text = (doc.texts.take (last + 1)).drop first := by
  simp only [linesBetween, texts, List.map_drop, List.map_take]

theorem exists_line? {index : Nat} (hindex : index < doc.lineCount) :
    ∃ line, doc.line? index = some line :=
  ⟨_, List.getElem?_eq_getElem hindex⟩

section Select

variable {anchor focus : Position}

theorem select_eq_none (hcount : doc.lineCount ≤ max anchor.line focus.line) :
    doc.select anchor focus = none := by
  simp only [select, hcount, ↓reduceIte]

/-- Endpoints on different lines select whole lines, with the offsets as reported. -/
theorem select_of_line_ne (hne : anchor.line ≠ focus.line)
    (hcount : max anchor.line focus.line < doc.lineCount) :
    doc.select anchor focus = some
      { startLine := min anchor.line focus.line
        endLine := max anchor.line focus.line
        startOffset := min anchor.offset focus.offset
        endOffset := max anchor.offset focus.offset
        lines := doc.linesBetween (min anchor.line focus.line) (max anchor.line focus.line)
        rawText := Text.unlines ((doc.linesBetween (min anchor.line focus.line)
          (max anchor.line focus.line)).map Line.text) } := by
  have hlength := @length_linesBetween doc (min anchor.line focus.line) _ hcount
  have hguard : ¬ doc.lineCount ≤ max anchor.line focus.line := by omega
  simp only [select, hguard, ↓reduceIte]
  split
  · rename_i line hsingle
    rw [hsingle, List.length_singleton] at hlength
    omega
  · rfl

/-- Endpoints on one line select the characters between them, as far as the line goes. -/
theorem select_of_line_eq {line : Line} (heq : anchor.line = focus.line)
    (hline : doc.line? anchor.line = some line) :
    doc.select anchor focus =
      if min (max anchor.offset focus.offset) line.length = 0 ∧ line.text ≠ [] then none
      else some
        { startLine := anchor.line
          endLine := anchor.line
          startOffset := min (min anchor.offset focus.offset) line.length
          endOffset := min (max anchor.offset focus.offset) line.length
          lines := [line]
          rawText := line.text.slice (min (min anchor.offset focus.offset) line.length)
            (min (max anchor.offset focus.offset) line.length) } := by
  obtain ⟨hlt, -⟩ := List.getElem?_eq_some_iff.mp hline
  have hguard : ¬ doc.lineCount ≤ anchor.line := Nat.not_le.mpr hlt
  have hblank : (!line.isBlank) = true ↔ line.text ≠ [] := by simp [Line.isBlank]
  simp only [select, ← heq, Nat.min_self, Nat.max_self, hguard, ↓reduceIte,
    linesBetween_self hline, hblank]

end Select

end Document

namespace Selection

/-- The document still holds what was selected: its lines from the first to the last one are the
copied ones, and they hold the copied text. Within one line the offsets stay on the line, and both
are zero only if the line is empty. -/
structure Current (selection : Selection) (doc : Document) : Prop where
  startLine_le : selection.startLine ≤ selection.endLine
  endLine_lt : selection.endLine < doc.lineCount
  startOffset_le : selection.startOffset ≤ selection.endOffset
  lines_eq : selection.lines = doc.linesBetween selection.startLine selection.endLine
  of_line : ∀ line, selection.startLine = selection.endLine →
    doc.line? selection.startLine = some line →
      selection.endOffset ≤ line.text.length ∧ (selection.endOffset = 0 → line.text = []) ∧
        selection.rawText = (line.text.drop selection.startOffset).take
          (selection.endOffset - selection.startOffset)
  of_lines : selection.startLine < selection.endLine →
    selection.rawText =
      Text.unlines ((doc.texts.take (selection.endLine + 1)).drop selection.startLine)

end Selection

open Selection

/-- A selection is current on the document it was made on. -/
theorem Document.current_of_select {doc : Document} {anchor focus : Position}
    {selection : Selection} (hselection : doc.select anchor focus = some selection) :
    selection.Current doc := by
  have hcount : max anchor.line focus.line < doc.lineCount := by
    apply Nat.lt_of_not_le
    intro hle
    rw [select_eq_none hle] at hselection
    contradiction
  by_cases hline : anchor.line = focus.line
  · obtain ⟨line, hget⟩ := exists_line? (show anchor.line < doc.lineCount by omega)
    rw [select_of_line_eq hline hget] at hselection
    split at hselection
    · contradiction
    · rename_i hcaret
      obtain rfl := Option.some.inj hselection
      constructor
      case startLine_le => exact Nat.le_refl _
      case endLine_lt => exact (List.getElem?_eq_some_iff.mp hget).1
      case startOffset_le => simp only; omega
      case lines_eq => exact (linesBetween_self hget).symm
      case of_line =>
        intro found _ hfound
        obtain rfl : line = found := Option.some.inj (hget.symm.trans hfound)
        refine ⟨Nat.min_le_right _ _, ?_, Text.slice_eq _ _ _⟩
        intro hzero
        by_cases hempty : line.text = []
        · exact hempty
        · exact absurd ⟨hzero, hempty⟩ hcaret
      case of_lines => intro hlt; simp at hlt
  · rw [select_of_line_ne hline hcount] at hselection
    obtain rfl := Option.some.inj hselection
    constructor
    case startLine_le => simp only; omega
    case endLine_lt => exact hcount
    case startOffset_le => simp only; omega
    case lines_eq => rfl
    case of_line => intro _ heq; simp only at heq; omega
    case of_lines => intro _; rw [map_text_linesBetween]

namespace Selection.Current

variable {selection : Selection} {doc : Document}

theorem isMultiline_iff (hcurrent : selection.Current doc) :
    selection.isMultiline = true ↔ selection.startLine < selection.endLine := by
  have hlength := @Document.length_linesBetween doc selection.startLine _ hcurrent.endLine_lt
  have hle := hcurrent.startLine_le
  rw [isMultiline, hcurrent.lines_eq, hlength, decide_eq_true_iff]
  omega

/-- What happens below a selection does not concern it. -/
theorem of_take_eq {next : Document} (hcurrent : selection.Current doc)
    (hcount : selection.endLine < next.lineCount)
    (htake : next.lines.take (selection.endLine + 1) = doc.lines.take (selection.endLine + 1)) :
    selection.Current next := by
  have hle := hcurrent.startLine_le
  have hline : next.line? selection.startLine = doc.line? selection.startLine := by
    have hget := congrArg (·[selection.startLine]?) htake
    simpa only [Document.line?, List.getElem?_take_of_lt (Nat.lt_succ_of_le hle)] using hget
  have htexts : next.texts.take (selection.endLine + 1) =
      doc.texts.take (selection.endLine + 1) := by
    simp only [Document.texts, ← List.map_take, htake]
  constructor
  case startLine_le => exact hle
  case endLine_lt => exact hcount
  case startOffset_le => exact hcurrent.startOffset_le
  case lines_eq => rw [hcurrent.lines_eq, Document.linesBetween, Document.linesBetween, htake]
  case of_line => rw [hline]; exact hcurrent.of_line
  case of_lines => rw [htexts]; exact hcurrent.of_lines

end Selection.Current

end MarkupEditor
