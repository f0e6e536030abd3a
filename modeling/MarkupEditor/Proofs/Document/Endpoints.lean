import MarkupEditor.Proofs.Document.Selection

/-!
# What two endpoints select

Two endpoints select the lines between them and the characters between their offsets, whichever of
them comes first. Lines and offsets are ordered apart from each other, and only within one line are
offsets clamped, before a caret at the start of a line is turned down. A selection names endpoints of
its own, and these select the same again.

A caret is told by its offsets alone. Within one line that is a selection of no text. Over several
lines the offsets belong to different lines, and may be equal around any text.
-/

namespace MarkupEditor

namespace Document

variable {doc : Document} {anchor focus : Position} {selection : Selection}

theorem select_comm (doc : Document) (anchor focus : Position) :
    doc.select anchor focus = doc.select focus anchor := by
  rw [select, select, Nat.min_comm anchor.line focus.line, Nat.max_comm anchor.line focus.line,
    Nat.min_comm anchor.offset focus.offset, Nat.max_comm anchor.offset focus.offset]

/-- A caret at the start of a line that holds text is turned down. -/
theorem select_eq_none_of_line {line : Line} (hsame : anchor.line = focus.line)
    (hline : doc.line? anchor.line = some line) :
    doc.select anchor focus = none ↔ anchor.offset = 0 ∧ focus.offset = 0 ∧ line.text ≠ [] := by
  rw [select_of_line_eq hsame hline, Line.length]
  constructor
  · intro hnone
    obtain ⟨hzero, htext⟩ : min (max anchor.offset focus.offset) line.text.length = 0 ∧
        line.text ≠ [] := by simpa using hnone
    have hlength : 0 < line.text.length := List.length_pos_iff.mpr htext
    exact ⟨by omega, by omega, htext⟩
  · rintro ⟨hanchor, hfocus, htext⟩
    rw [if_pos ⟨by omega, htext⟩]

theorem select_eq_none_iff :
    doc.select anchor focus = none ↔
      doc.lineCount ≤ max anchor.line focus.line ∨
        anchor.line = focus.line ∧ anchor.offset = 0 ∧ focus.offset = 0 ∧
          ∃ line, doc.line? anchor.line = some line ∧ line.text ≠ [] := by
  by_cases hcount : doc.lineCount ≤ max anchor.line focus.line
  · simp only [select_eq_none hcount, hcount, true_or]
  · by_cases hsame : anchor.line = focus.line
    · obtain ⟨line, hline⟩ := exists_line? (show anchor.line < doc.lineCount by omega)
      rw [select_eq_none_of_line hsame hline]
      constructor
      · rintro ⟨hanchor, hfocus, htext⟩
        exact Or.inr ⟨hsame, hanchor, hfocus, line, hline, htext⟩
      · rintro (hle | ⟨-, hanchor, hfocus, found, hfound, htext⟩)
        · exact absurd hle hcount
        · obtain rfl : line = found := Option.some.inj (hline.symm.trans hfound)
          exact ⟨hanchor, hfocus, htext⟩
    · rw [select_of_line_ne hsame (Nat.lt_of_not_le hcount)]
      simp only [hcount, hsame, reduceCtorEq, false_and, or_false]

/-- The selection is of what lies between the endpoints: the lines of the document from the one to
the other, and within one line the characters between the offsets, as far as the line goes. -/
structure Between (doc : Document) (anchor focus : Position) (selection : Selection) : Prop where
  startLine_eq : selection.startLine = min anchor.line focus.line
  endLine_eq : selection.endLine = max anchor.line focus.line
  length_lines : selection.lines.length = selection.endLine + 1 - selection.startLine
  getElem?_lines : ∀ i, i < selection.lines.length →
    selection.lines[i]? = doc.line? (selection.startLine + i)
  of_line : anchor.line = focus.line → ∃ line, doc.line? anchor.line = some line ∧
    selection.startOffset = min (min anchor.offset focus.offset) line.text.length ∧
    selection.endOffset = min (max anchor.offset focus.offset) line.text.length ∧
    selection.rawText = (line.text.drop selection.startOffset).take
      (selection.endOffset - selection.startOffset) ∧
    selection.rawText.length = selection.endOffset - selection.startOffset
  of_lines : anchor.line ≠ focus.line →
    selection.startOffset = min anchor.offset focus.offset ∧
    selection.endOffset = max anchor.offset focus.offset ∧
    selection.rawText = Text.unlines (selection.lines.map Line.text)

theorem getElem?_linesBetween {first last i : Nat} (hi : i < last + 1 - first) :
    (doc.linesBetween first last)[i]? = doc.line? (first + i) := by
  rw [linesBetween, List.getElem?_drop, List.getElem?_take_of_lt (by omega), line?]

/-- Within one line the offsets are clamped. -/
theorem between_of_line_eq {line : Line} (hsame : anchor.line = focus.line)
    (hline : doc.line? anchor.line = some line)
    (hselection : doc.select anchor focus = some selection) : doc.Between anchor focus selection := by
  rw [select_of_line_eq hsame hline] at hselection
  split at hselection
  · contradiction
  · obtain rfl := Option.some.inj hselection
    constructor
    case startLine_eq => simp only; omega
    case endLine_eq => simp only; omega
    case length_lines => simp
    case getElem?_lines =>
      intro i hi
      obtain rfl : i = 0 := by simpa using hi
      simp [hline]
    case of_line =>
      intro _
      refine ⟨line, hline, rfl, rfl, Text.slice_eq _ _ _, ?_⟩
      simp only [Text.slice_eq, List.length_take, List.length_drop, Line.length]
      omega
    case of_lines => intro hne; exact absurd hsame hne

theorem between_of_line_ne (hdiffer : anchor.line ≠ focus.line)
    (hcount : max anchor.line focus.line < doc.lineCount)
    (hselection : doc.select anchor focus = some selection) : doc.Between anchor focus selection := by
  have hlength := @length_linesBetween doc (min anchor.line focus.line) _ hcount
  rw [select_of_line_ne hdiffer hcount] at hselection
  obtain rfl := Option.some.inj hselection
  constructor
  case startLine_eq => rfl
  case endLine_eq => rfl
  case length_lines => exact hlength
  case getElem?_lines =>
    intro i hi
    exact getElem?_linesBetween (by rwa [hlength] at hi)
  case of_line => intro heq; exact absurd heq hdiffer
  case of_lines => intro _; exact ⟨rfl, rfl, rfl⟩

theorem between_of_select (hselection : doc.select anchor focus = some selection) :
    doc.Between anchor focus selection := by
  have hcount : max anchor.line focus.line < doc.lineCount := by
    apply Nat.lt_of_not_le
    intro hle
    rw [select_eq_none hle] at hselection
    contradiction
  by_cases hsame : anchor.line = focus.line
  · obtain ⟨line, hline⟩ := exists_line? (show anchor.line < doc.lineCount by omega)
    exact between_of_line_eq hsame hline hselection
  · exact between_of_line_ne hsame hcount hselection

namespace Between

theorem lines_eq {other : Selection} (hbetween : doc.Between anchor focus selection)
    (hother : doc.Between anchor focus other) : selection.lines = other.lines := by
  have hstart := hbetween.startLine_eq.trans hother.startLine_eq.symm
  have hlength : selection.lines.length = other.lines.length := by
    rw [hbetween.length_lines, hother.length_lines, hstart, hbetween.endLine_eq, hother.endLine_eq]
  apply List.ext_getElem?
  intro i
  by_cases hi : i < selection.lines.length
  · rw [hbetween.getElem?_lines i hi, hother.getElem?_lines i (hlength ▸ hi), hstart]
  · rw [List.getElem?_eq_none (Nat.not_lt.mp hi), List.getElem?_eq_none (by omega)]

theorem getElem?_texts (hbetween : doc.Between anchor focus selection) {i : Nat}
    (hi : i < selection.lines.length) :
    (selection.lines.map Line.text)[i]? = doc.texts[selection.startLine + i]? := by
  rw [List.getElem?_map, hbetween.getElem?_lines i hi, line?, texts, List.getElem?_map]

/-- Endpoints have at most one selection between them. -/
theorem unique {other : Selection} (hbetween : doc.Between anchor focus selection)
    (hother : doc.Between anchor focus other) : selection = other := by
  have hlines := hbetween.lines_eq hother
  have hfirst := hbetween.startLine_eq.trans hother.startLine_eq.symm
  have hlast := hbetween.endLine_eq.trans hother.endLine_eq.symm
  have hrest : selection.startOffset = other.startOffset ∧
      selection.endOffset = other.endOffset ∧ selection.rawText = other.rawText := by
    by_cases hsame : anchor.line = focus.line
    · obtain ⟨line, hline, hstart, hstop, hraw, -⟩ := hbetween.of_line hsame
      obtain ⟨found, hfound, hstart', hstop', hraw', -⟩ := hother.of_line hsame
      obtain rfl : line = found := Option.some.inj (hline.symm.trans hfound)
      rw [hstart, hstop] at hraw
      rw [hstart', hstop'] at hraw'
      exact ⟨hstart.trans hstart'.symm, hstop.trans hstop'.symm, hraw.trans hraw'.symm⟩
    · obtain ⟨hstart, hstop, hraw⟩ := hbetween.of_lines hsame
      obtain ⟨hstart', hstop', hraw'⟩ := hother.of_lines hsame
      refine ⟨hstart.trans hstart'.symm, hstop.trans hstop'.symm, ?_⟩
      rw [hraw, hraw', hlines]
  cases selection
  cases other
  simp only [Selection.mk.injEq]
  exact ⟨hfirst, hlast, hrest.1, hrest.2.1, hlines, hrest.2.2⟩

/-- A selection is also the one between the endpoints that it names. -/
theorem endpoints (hbetween : doc.Between anchor focus selection) :
    doc.Between ⟨selection.startLine, selection.startOffset⟩
      ⟨selection.endLine, selection.endOffset⟩ selection := by
  have hfirst := hbetween.startLine_eq
  have hlast := hbetween.endLine_eq
  constructor
  case startLine_eq => simp only; omega
  case endLine_eq => simp only; omega
  case length_lines => exact hbetween.length_lines
  case getElem?_lines => exact hbetween.getElem?_lines
  case of_line =>
    intro heq
    simp only at heq
    have hsame : anchor.line = focus.line := by omega
    obtain ⟨line, hline, hstart, hstop, hraw⟩ := hbetween.of_line hsame
    have hplace : selection.startLine = anchor.line := by omega
    refine ⟨line, hplace ▸ hline, ?_, ?_, hraw⟩
    · simp only
      omega
    · simp only
      omega
  case of_lines =>
    intro hne
    simp only at hne
    have hdiffer : anchor.line ≠ focus.line := by omega
    obtain ⟨hstart, hstop, hraw⟩ := hbetween.of_lines hdiffer
    refine ⟨?_, ?_, hraw⟩
    · simp only
      omega
    · simp only
      omega

end Between

/-- The endpoints that a selection names select it again. -/
theorem select_endpoints (hselection : doc.select anchor focus = some selection) :
    doc.select ⟨selection.startLine, selection.startOffset⟩
      ⟨selection.endLine, selection.endOffset⟩ = some selection := by
  have hbetween := between_of_select hselection
  obtain ⟨hle, hlast, -, -, hline, -⟩ := current_of_select hselection
  cases hagain : doc.select ⟨selection.startLine, selection.startOffset⟩
      ⟨selection.endLine, selection.endOffset⟩ with
  | some again => rw [hbetween.endpoints.unique (between_of_select hagain)]
  | none =>
      rcases select_eq_none_iff.mp hagain with hcount | ⟨hsame, -, hzero, found, hfound, htext⟩
      · simp only at hcount
        omega
      · exact absurd ((hline found hsame hfound).2.1 hzero) htext

/-- **Endpoints are normalized.** A selection does not depend on which endpoint comes first. There is
none exactly if a line is missing, or for a caret at the start of a line that holds text. Otherwise
it is of the lines and the characters between the endpoints, with offsets clamped within one line,
and the endpoints that it names select it again. -/
theorem select_normalizes (doc : Document) (anchor focus : Position) :
    doc.select anchor focus = doc.select focus anchor ∧
    (doc.select anchor focus = none ↔
      doc.lineCount ≤ max anchor.line focus.line ∨
        anchor.line = focus.line ∧ anchor.offset = 0 ∧ focus.offset = 0 ∧
          ∃ line, doc.line? anchor.line = some line ∧ line.text ≠ []) ∧
    ∀ selection, doc.select anchor focus = some selection →
      doc.Between anchor focus selection ∧
        doc.select ⟨selection.startLine, selection.startOffset⟩
          ⟨selection.endLine, selection.endOffset⟩ = some selection := by
  refine ⟨select_comm doc anchor focus, select_eq_none_iff, ?_⟩
  intro selection hselection
  exact ⟨between_of_select hselection, select_endpoints hselection⟩

/-- An inverted selection that goes past the end of its line. -/
theorem select_normalizes_past_end :
    ∃ selection, (ofText "ab\ncde".toList).select ⟨1, 40⟩ ⟨1, 1⟩ = some selection ∧
      (ofText "ab\ncde".toList).Between ⟨1, 40⟩ ⟨1, 1⟩ selection ∧
      (selection.startOffset, selection.endOffset, selection.rawText) = (1, 3, "de".toList) := by
  have hselection : (ofText "ab\ncde".toList).select ⟨1, 40⟩ ⟨1, 1⟩ =
      some ⟨1, 1, 1, 3, [⟨1, "cde".toList⟩], "de".toList⟩ := by decide
  obtain ⟨-, -, hnormal⟩ := select_normalizes (ofText "ab\ncde".toList) ⟨1, 40⟩ ⟨1, 1⟩
  exact ⟨_, hselection, (hnormal _ hselection).1, rfl⟩

section Caret

theorem isMultiline_iff_line_ne (hselection : doc.select anchor focus = some selection) :
    selection.isMultiline = true ↔ anchor.line ≠ focus.line := by
  have hbetween := between_of_select hselection
  have hfirst := hbetween.startLine_eq
  have hlast := hbetween.endLine_eq
  rw [(current_of_select hselection).isMultiline_iff]
  omega

/-- Within one line, a caret is a selection of no text. -/
theorem isCaret_iff_of_line (hselection : doc.select anchor focus = some selection)
    (hsame : anchor.line = focus.line) : selection.isCaret = true ↔ selection.rawText = [] := by
  obtain ⟨line, -, -, -, -, hlength⟩ := (between_of_select hselection).of_line hsame
  have hle := (current_of_select hselection).startOffset_le
  rw [Selection.isCaret, beq_iff_eq, ← List.length_eq_zero_iff, hlength]
  omega

/-- Over several lines, a caret is told by offsets of different lines. -/
theorem isCaret_iff_of_lines (hselection : doc.select anchor focus = some selection)
    (hdiffer : anchor.line ≠ focus.line) :
    selection.isCaret = true ↔ anchor.offset = focus.offset := by
  obtain ⟨hstart, hstop, -⟩ := (between_of_select hselection).of_lines hdiffer
  rw [Selection.isCaret, beq_iff_eq]
  omega

/-- **Carets and selections of no text.** That a selection is a caret means that it is within one
line and covers no text, unless its endpoints have the same offset on different lines. Such a
selection of several lines is a caret as well, whatever text it covers. -/
theorem isCaret_iff_no_text (hselection : doc.select anchor focus = some selection) :
    ((selection.isCaret = true ↔ selection.isMultiline = false ∧ selection.rawText = []) ↔
      anchor.line = focus.line ∨ anchor.offset ≠ focus.offset) ∧
    (anchor.line ≠ focus.line →
      selection.isMultiline = true ∧ (selection.isCaret = true ↔ anchor.offset = focus.offset)) := by
  have hmultiline := isMultiline_iff_line_ne hselection
  by_cases hsame : anchor.line = focus.line
  · have hsingle : selection.isMultiline = false := by simpa [hsame] using hmultiline
    have hcaret := isCaret_iff_of_line hselection hsame
    refine ⟨?_, fun hdiffer => absurd hsame hdiffer⟩
    simp only [hcaret, hsingle, hsame, true_and, true_or]
  · have hseveral : selection.isMultiline = true := hmultiline.mpr hsame
    have hcaret := isCaret_iff_of_lines hselection hsame
    refine ⟨?_, fun _ => ⟨hseveral, hcaret⟩⟩
    simp only [hcaret, hseveral, hsame, Bool.true_eq_false, false_and, iff_false, false_or, ne_eq]

/-- A caret within a line. -/
theorem isCaret_iff_no_text_inside :
    ∃ selection, (ofText "text".toList).select ⟨0, 2⟩ ⟨0, 2⟩ = some selection ∧
      (selection.isCaret = true ↔ selection.isMultiline = false ∧ selection.rawText = []) := by
  have hselection : (ofText "text".toList).select ⟨0, 2⟩ ⟨0, 2⟩ =
      some ⟨0, 0, 2, 2, [⟨0, "text".toList⟩], []⟩ := by decide
  exact ⟨_, hselection, (isCaret_iff_no_text hselection).1.mpr (Or.inl rfl)⟩

/-- Both lines are selected from their first column on. -/
theorem isCaret_two_lines :
    ∃ selection, (ofText "a\nb".toList).select ⟨0, 0⟩ ⟨1, 0⟩ = some selection ∧
      selection.isCaret = true ∧ selection.isMultiline = true ∧ selection.rawText = "a\nb".toList ∧
      ¬ (selection.isCaret = true ↔ selection.isMultiline = false ∧ selection.rawText = []) := by
  refine ⟨⟨0, 1, 0, 0, [⟨0, "a".toList⟩, ⟨1, "b".toList⟩], "a\nb".toList⟩, ?_⟩
  decide

end Caret

end Document

end MarkupEditor
