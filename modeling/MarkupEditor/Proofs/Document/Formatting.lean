import MarkupEditor.Proofs.Document.Selection
import MarkupEditor.Proofs.Document.WellFormed
import MarkupEditor.Proofs.Session.Step

/-!
# What a command writes

A command puts new texts in the place of the lines that a selection names, and keeps the texts above
and below. What it writes depends on the present texts of these lines and on the offsets of the
selection. The copied lines do not count, so the result is the same for a selection that was made on
another document.
-/

namespace MarkupEditor

namespace Command

/-- The texts that a command makes of those of several lines, each with its number from one. -/
def rewriteTexts (command : Command) (texts : List Text) : List Text :=
  texts.mapIdx fun place text => (command.markupLine? text (place + 1)).getD text

def blockTexts (command : Command) (texts : List Text) : List Text :=
  if command.padsBlock then [] :: command.rewriteTexts texts ++ [[]]
  else command.rewriteTexts texts

/-- The texts that take the place of that of a single line. -/
def lineTexts (command : Command) (text : Text) (start stop : Nat) : List Text :=
  if command = horizontalRule then ["---".toList]
  else if start < stop then
    [text.take start ++ command.markup ((text.drop start).take (stop - start)) ++ text.drop stop]
  else if 0 < stop then [text, command.markup []]
  else [command.markup []]

/-- The place of the line that a command on a single line writes: below a caret behind the first
column, and otherwise where the caret is. -/
def writtenLine (command : Command) (index start stop : Nat) : Nat :=
  if command ≠ horizontalRule ∧ stop ≤ start ∧ 0 < stop then index + 1 else index

@[simp]
theorem length_rewriteTexts (command : Command) (texts : List Text) :
    (command.rewriteTexts texts).length = texts.length := by
  simp [rewriteTexts]

@[simp]
theorem replacesLine_iff (command : Command) :
    command.replacesLine = true ↔ command = horizontalRule := by
  cases command <;> simp [replacesLine]

end Command

namespace Document

variable {texts : List Text} {version : Nat} (command : Command)

section Block

variable {first last : Nat}

theorem getElem?_rewriteTexts (hle : first ≤ last) (hlast : last < texts.length) (i : Nat) :
    (texts.take first ++ command.rewriteTexts ((texts.take (last + 1)).drop first) ++
      texts.drop (last + 1))[i]? =
      texts[i]?.map fun text =>
        if first ≤ i ∧ i ≤ last then (command.markupLine? text (i - first + 1)).getD text
        else text := by
  have hfront : (texts.take first).length = first := by
    rw [List.length_take]
    omega
  have hblock := @length_segment _ texts first last hlast
  have hboth : (texts.take first ++
      command.rewriteTexts ((texts.take (last + 1)).drop first)).length = last + 1 := by
    rw [List.length_append, Command.length_rewriteTexts, hfront, hblock]
    omega
  by_cases hbefore : i < first
  · have hout : ¬ (first ≤ i ∧ i ≤ last) := by omega
    rw [List.getElem?_append_left (by omega), List.getElem?_append_left (by omega),
      List.getElem?_take_of_lt hbefore]
    simp [hout]
  · by_cases hinside : i ≤ last
    · have hin : first ≤ i ∧ i ≤ last := by omega
      have hplace : first + (i - first) = i := by omega
      rw [List.getElem?_append_left (by omega), List.getElem?_append_right (by omega), hfront,
        Command.rewriteTexts, List.getElem?_mapIdx, List.getElem?_drop, hplace,
        List.getElem?_take_of_lt (by omega)]
      simp [hin]
    · have hout : ¬ (first ≤ i ∧ i ≤ last) := by omega
      have hplace : last + 1 + (i - (last + 1)) = i := by omega
      rw [List.getElem?_append_right (by omega), hboth, List.getElem?_drop, hplace]
      simp [hout]

theorem rewriteLines_ofTexts (hle : first ≤ last) (hlast : last < texts.length) :
    (ofTexts texts version).rewriteLines command first last =
      ofTexts (texts.take first ++ command.rewriteTexts ((texts.take (last + 1)).drop first) ++
        texts.drop (last + 1)) version := by
  simp only [rewriteLines, ofTexts, mk.injEq, and_true]
  apply List.ext_getElem?
  intro i
  rw [Line.getElem?_enumerate, getElem?_rewriteTexts command hle hlast, List.getElem?_mapIdx,
    Line.getElem?_enumerate, Option.map_map, Option.map_map]
  congr 1
  funext text
  by_cases hin : first ≤ i ∧ i ≤ last
  · simp [hin]
  · simp [hin]

theorem formatBlock_ofTexts {selection : Selection}
    (hle : selection.startLine ≤ selection.endLine) (hlast : selection.endLine < texts.length) :
    (ofTexts texts version).formatBlock command selection =
      (⟨selection.startLine, selection.startLine +
          (command.blockTexts
            ((texts.take (selection.endLine + 1)).drop selection.startLine)).length⟩,
        ofTexts (texts.take selection.startLine ++
          command.blockTexts ((texts.take (selection.endLine + 1)).drop selection.startLine) ++
            texts.drop (selection.endLine + 1)) version) := by
  obtain ⟨front, hfront⟩ : ∃ front, texts.take selection.startLine = front := ⟨_, rfl⟩
  obtain ⟨block, hblock⟩ : ∃ block, command.rewriteTexts
      ((texts.take (selection.endLine + 1)).drop selection.startLine) = block := ⟨_, rfl⟩
  obtain ⟨back, hback⟩ : ∃ back, texts.drop (selection.endLine + 1) = back := ⟨_, rfl⟩
  have hlengthFront : front.length = selection.startLine := by
    rw [← hfront, List.length_take]
    omega
  have hlengthBlock : block.length = selection.endLine + 1 - selection.startLine := by
    rw [← hblock, Command.length_rewriteTexts, length_segment hlast]
  have hlengthBoth : (front ++ block).length = selection.endLine + 1 := by
    rw [List.length_append]
    omega
  simp only [formatBlock, rewriteLines_ofTexts command hle hlast, Command.blockTexts, hfront,
    hblock, hback]
  cases command.padsBlock with
  | false =>
      have hstop : selection.startLine + block.length = selection.endLine + 1 := by omega
      simp [hstop]
  | true =>
      -- The lower blank line goes in first, so the place of the upper one has not moved.
      have hbelow : (ofTexts (front ++ block ++ back) version).insertLines
          (selection.endLine + 1) [[]] = ofTexts (front ++ (block ++ [] :: back)) version := by
        rw [insertLines_ofTexts, List.take_left' hlengthBoth, List.drop_left' hlengthBoth]
        simp
      have habove : (ofTexts (front ++ (block ++ [] :: back)) version).insertLines
          selection.startLine [[]] =
          ofTexts (front ++ ([] :: block ++ [[]]) ++ back) version := by
        rw [insertLines_ofTexts, List.take_left' hlengthFront, List.drop_left' hlengthFront]
        simp
      have hstop : selection.startLine + ([] :: block ++ [[]]).length = selection.endLine + 3 := by
        rw [List.length_append, List.length_cons, List.length_singleton]
        omega
      simp only [↓reduceIte, hbelow, habove, hstop]

end Block

section SingleLine

variable {text : Text} {index : Nat}

theorem setText_of_getElem? (htext : texts[index]? = some text) (value : Text) :
    (ofTexts texts version).setText index value =
      ofTexts (texts.take index ++ [value] ++ texts.drop (index + 1)) version := by
  obtain ⟨hlt, -⟩ := List.getElem?_eq_some_iff.mp htext
  rw [setText_ofTexts, List.set_eq_take_append_cons_drop, if_pos hlt]
  simp

theorem insertLines_below (htext : texts[index]? = some text) (value : Text) :
    (ofTexts texts version).insertLines (index + 1) [value] =
      ofTexts (texts.take index ++ [text, value] ++ texts.drop (index + 1)) version := by
  obtain ⟨hlt, hget⟩ := List.getElem?_eq_some_iff.mp htext
  rw [insertLines_ofTexts, List.take_succ_eq_append_getElem hlt, hget]
  simp

theorem formatLine_ofTexts {selection : Selection}
    (htext : texts[selection.startLine]? = some text) :
    (ofTexts texts version).formatLine command ⟨selection.startLine, text⟩ selection =
      (⟨command.writtenLine selection.startLine selection.startOffset selection.endOffset,
          command.writtenLine selection.startLine selection.startOffset selection.endOffset + 1⟩,
        ofTexts (texts.take selection.startLine ++
          command.lineTexts text selection.startOffset selection.endOffset ++
            texts.drop (selection.startLine + 1)) version) := by
  simp only [formatLine, Command.lineTexts, Command.writtenLine, Text.slice_eq, Text.splice_eq,
    Command.replacesLine_iff]
  by_cases hrule : command = .horizontalRule
  · simp [hrule, setText_of_getElem? htext, Command.markup]
  · by_cases hrange : selection.startOffset < selection.endOffset
    · have hmax : max selection.startOffset selection.endOffset = selection.endOffset := by omega
      have hplace : ¬ selection.endOffset ≤ selection.startOffset := by omega
      simp [hrule, hrange, hmax, hplace, setText_of_getElem? htext]
    · have hempty : selection.endOffset - selection.startOffset = 0 := by omega
      by_cases hcaret : 0 < selection.endOffset
      · have hplace : selection.endOffset ≤ selection.startOffset := by omega
        simp [hrule, hrange, hempty, hcaret, hplace, insertLines_below htext]
      · simp [hrule, hrange, hempty, hcaret, setText_of_getElem? htext]

end SingleLine

section Format

variable {origin doc : Document} {anchor focus : Position} {selection : Selection}

theorem format_of_lineCount_le (hcount : doc.lineCount ≤ selection.endLine) :
    doc.format command selection = none := by
  rw [format_eq, if_pos hcount]

/-- A command has an effect on every selection that ends within the document. -/
theorem exists_format (hle : selection.startLine ≤ selection.endLine)
    (hlast : selection.endLine < doc.lineCount) :
    ∃ patch next, doc.format command selection = some (patch, next) := by
  have hguard : ¬ doc.lineCount ≤ selection.endLine := by omega
  by_cases hmultiline : selection.isMultiline = true
  · rw [format_eq, if_neg hguard, if_pos hmultiline]
    exact ⟨_, _, rfl⟩
  · obtain ⟨line, hline⟩ := exists_line? (Nat.lt_of_le_of_lt hle hlast)
    rw [format_eq, if_neg hguard, if_neg hmultiline, hline]
    exact ⟨_, _, rfl⟩

theorem format_of_isMultiline (hle : selection.startLine ≤ selection.endLine)
    (hlast : selection.endLine < texts.length) (hmultiline : selection.isMultiline = true) :
    (ofTexts texts version).format command selection = some
      (⟨⟨selection.startLine, selection.startLine +
            (command.blockTexts
              ((texts.take (selection.endLine + 1)).drop selection.startLine)).length⟩,
          version + 1⟩,
        ofTexts (texts.take selection.startLine ++
          command.blockTexts ((texts.take (selection.endLine + 1)).drop selection.startLine) ++
            texts.drop (selection.endLine + 1)) (version + 1)) := by
  have hguard : ¬ (ofTexts texts version).lineCount ≤ selection.endLine := by
    rw [lineCount_ofTexts]
    omega
  rw [format_eq, if_neg hguard, if_pos hmultiline, formatBlock_ofTexts command hle hlast]
  rfl

theorem format_of_not_isMultiline {text : Text} (htext : texts[selection.startLine]? = some text)
    (hlast : selection.endLine < texts.length) (hsingle : selection.isMultiline = false) :
    (ofTexts texts version).format command selection = some
      (⟨⟨command.writtenLine selection.startLine selection.startOffset selection.endOffset,
            command.writtenLine selection.startLine selection.startOffset
              selection.endOffset + 1⟩, version + 1⟩,
        ofTexts (texts.take selection.startLine ++
          command.lineTexts text selection.startOffset selection.endOffset ++
            texts.drop (selection.startLine + 1)) (version + 1)) := by
  have hguard : ¬ (ofTexts texts version).lineCount ≤ selection.endLine := by
    rw [lineCount_ofTexts]
    omega
  have hmultiline : ¬ selection.isMultiline = true := by simp [hsingle]
  have hline : (ofTexts texts version).line? selection.startLine =
      some ⟨selection.startLine, text⟩ := by
    rw [line?_ofTexts, htext, Option.map_some]
  rw [format_eq, if_neg hguard, if_neg hmultiline, hline, Option.bind_eq_bind, Option.bind_some,
    formatLine_ofTexts command htext]
  rfl

/-- A selection that ends beyond the document changes nothing in a session that has captured it. -/
theorem perform_apply_of_lineCount_le (hcount : doc.lineCount ≤ selection.endLine)
    (options : Options) :
    (Session.mk doc (some selection) options).perform (.apply command) =
      (.unchanged, ⟨doc, some selection, options⟩) := by
  have hformat := format_of_lineCount_le command hcount
  have happly : (Session.mk doc (some selection) options).apply command = none := by
    simp [Session.apply_eq, hformat]
  rw [Session.perform_apply, happly]

/-- **Applying a command.** Whatever document a selection was made on, a command changes nothing if
the selection ends beyond the present document. Otherwise it counts one change, puts its texts in the
place of those of the selected lines, as they are now, and keeps the texts above and below. -/
theorem format_of_select (hdoc : doc.WellFormed)
    (hselection : origin.select anchor focus = some selection) :
    (doc.lineCount ≤ selection.endLine →
      doc.format command selection = none ∧
        ∀ options, (Session.mk doc (some selection) options).perform (.apply command) =
          (.unchanged, ⟨doc, some selection, options⟩)) ∧
    (selection.endLine < doc.lineCount → selection.isMultiline = true →
      ∃ block, block = (doc.texts.take (selection.endLine + 1)).drop selection.startLine ∧
        block.length = selection.lines.length ∧
        doc.format command selection = some
          (⟨⟨selection.startLine, selection.startLine + (command.blockTexts block).length⟩,
              doc.version + 1⟩,
            ofTexts (doc.texts.take selection.startLine ++ command.blockTexts block ++
              doc.texts.drop (selection.endLine + 1)) (doc.version + 1))) ∧
    (selection.endLine < doc.lineCount → selection.isMultiline = false →
      ∃ text, doc.texts[selection.startLine]? = some text ∧
        doc.format command selection = some
          (⟨⟨command.writtenLine selection.startLine selection.startOffset selection.endOffset,
              command.writtenLine selection.startLine selection.startOffset
                selection.endOffset + 1⟩, doc.version + 1⟩,
            ofTexts (doc.texts.take selection.startLine ++
              command.lineTexts text selection.startOffset selection.endOffset ++
                doc.texts.drop (selection.endLine + 1)) (doc.version + 1))) := by
  have hcurrent := current_of_select hselection
  have hle := hcurrent.startLine_le
  have hlength : selection.lines.length = selection.endLine + 1 - selection.startLine := by
    rw [hcurrent.lines_eq, length_linesBetween hcurrent.endLine_lt]
  have hformat : doc.format command selection =
      (ofTexts doc.texts doc.version).format command selection := by
    rw [← hdoc.eq_ofTexts]
  refine ⟨?_, ?_, ?_⟩
  · intro hbeyond
    exact ⟨format_of_lineCount_le command hbeyond, perform_apply_of_lineCount_le command hbeyond⟩
  · intro hinside hmultiline
    rw [← length_texts] at hinside
    refine ⟨_, rfl, ?_, ?_⟩
    · rw [length_segment hinside, hlength]
    · rw [hformat, format_of_isMultiline command hle hinside hmultiline]
  · intro hinside hsingle
    rw [← length_texts] at hinside
    have hsame : selection.startLine = selection.endLine := by
      have hmultiline := hcurrent.isMultiline_iff
      rw [hsingle] at hmultiline
      have hlt : ¬ selection.startLine < selection.endLine := by simpa using hmultiline
      omega
    have hlt : selection.startLine < doc.texts.length := by omega
    obtain ⟨text, htext⟩ : ∃ text, doc.texts[selection.startLine]? = some text :=
      ⟨_, List.getElem?_eq_getElem hlt⟩
    refine ⟨text, htext, ?_⟩
    rw [hformat, format_of_not_isMultiline command htext hinside hsingle, hsame]

/-- The selection was made on a longer line, so its range lies past the end of the present one. -/
theorem format_past_end :
    ∃ selection, (ofText "long line".toList).select ⟨0, 5⟩ ⟨0, 9⟩ = some selection ∧
      (ofText "ab".toList).format .bold selection =
        some (⟨⟨0, 1⟩, 1⟩, ofTexts ["ab** **".toList] 1) := by
  have hselection : (ofText "long line".toList).select ⟨0, 5⟩ ⟨0, 9⟩ =
      some ⟨0, 0, 5, 9, [⟨0, "long line".toList⟩], "line".toList⟩ := by decide
  have hdoc := wellFormed_ofText "ab".toList
  obtain ⟨-, -, hsingle⟩ := format_of_select .bold hdoc hselection
  obtain ⟨text, htext, hformat⟩ := hsingle (by decide) (by decide)
  have htexts : (ofText "ab".toList).texts[0]? = some "ab".toList := by decide
  obtain rfl : "ab".toList = text := Option.some.inj (htexts.symm.trans htext)
  have hresult : (ofText "ab".toList).texts.take 0 ++ Command.bold.lineTexts "ab".toList 5 9 ++
      (ofText "ab".toList).texts.drop 1 = ["ab** **".toList] := by decide
  refine ⟨_, hselection, hformat.trans ?_⟩
  rw [hresult]
  rfl

end Format

end Document

end MarkupEditor
