import MarkupEditor.Proofs.Session.Reopening

/-!
# Line endings

A source may end its lines with a line feed or with a carriage return and a line feed, and mix the
two as it likes; a return may also stand at its very end. Loading a document and rendering a source
each drop these returns for themselves. They drop the same ones, so neither the lines nor the HTML
tell which endings the source had.
-/

namespace MarkupEditor

/-- A line as it stands in a source, with or without a carriage return at its end. The return is
not counted to the text of the line. -/
structure SourceLine where
  text : Text
  hasReturn : Bool
  newline_not_mem : '\n' ∉ text
  not_endsInReturn : ¬text.EndsInReturn

namespace SourceLine

def written (line : SourceLine) : Text :=
  if line.hasReturn then line.text ++ ['\r'] else line.text

/-- The source with these lines: a line feed stands behind every line but the last. -/
def assemble : List SourceLine → Text
  | [] => []
  | [last] => last.written
  | line :: next :: below => line.written ++ '\n' :: assemble (next :: below)

theorem assemble_eq_unlines (lines : List SourceLine) :
    assemble lines = Text.unlines (lines.map written) := by
  induction lines with
  | nil => rfl
  | cons line below ih =>
      cases below with
      | nil => simp [assemble, Text.unlines_cons]
      | cons next below =>
          rw [assemble, ih, @List.map_cons _ _ written line, Text.unlines_cons,
            Text.cons_unlines (by simp)]

theorem newline_not_mem_written (line : SourceLine) : '\n' ∉ line.written := by
  unfold written
  split
  · simp [line.newline_not_mem]
  · exact line.newline_not_mem

theorem dropReturn_written (line : SourceLine) : line.written.dropReturn = line.text := by
  unfold written
  split
  · simp [Text.dropReturn]
  · exact Text.dropReturn_eq_self_iff.mpr line.not_endsInReturn

section Assemble

variable {lines : List SourceLine}

theorem lines_assemble (hlines : lines ≠ []) : (assemble lines).lines = lines.map text := by
  have hnewline : ∀ line ∈ lines.map written, '\n' ∉ line :=
    List.forall_mem_map.mpr fun line _ => line.newline_not_mem_written
  rw [assemble_eq_unlines, Text.lines_unlines (by simpa using hlines) hnewline, List.map_map]
  exact List.map_congr_left fun line _ => line.dropReturn_written

theorem lines_unlines_text (hlines : lines ≠ []) :
    (Text.unlines (lines.map text)).lines = lines.map text := by
  have hnewline : ∀ line ∈ lines.map text, '\n' ∉ line :=
    List.forall_mem_map.mpr fun line _ => line.newline_not_mem
  rw [Text.lines_unlines (by simpa using hlines) hnewline, Text.map_dropReturn_eq_self_iff]
  exact List.forall_mem_map.mpr fun line _ => line.not_endsInReturn

/-- **Line endings are all one.** Whatever endings the lines of a source have, the document that is
loaded from it has just these lines, its text has them joined by line feeds, and the source is
rendered as that text is; so it makes no difference whether it is loaded before it is rendered. -/
theorem line_endings_normalized (hlines : lines ≠ []) (options : Options) :
    let source := assemble lines
    (Document.ofText source).texts = lines.map text ∧
      (Document.ofText source).text = Text.unlines (lines.map text) ∧
      Markup.render source = Markup.render (Text.unlines (lines.map text)) ∧
      (Session.start source options).render = Markup.render source := by
  intro source
  have htexts : (Document.ofText source).texts = lines.map text := by
    rw [Document.ofText_eq_ofTexts, Document.texts_ofTexts]
    exact lines_assemble hlines
  have htext : (Document.ofText source).text = Text.unlines (lines.map text) :=
    congrArg Text.unlines htexts
  have hrender : Markup.render source = Markup.render (Text.unlines (lines.map text)) := by
    rw [Markup.render, Markup.render, lines_assemble hlines, lines_unlines_text hlines]
  refine ⟨htexts, htext, hrender, ?_⟩
  calc (Session.start source options).render
      = Markup.render (Document.ofText source).text := rfl
    _ = Markup.render source := by rw [htext, hrender]

/-- Items with mixed endings, a return inside of a line, and a return at the very end. -/
theorem line_endings_normalized_mixed :
    let lines : List SourceLine :=
      [⟨"- a".toList, true, by decide, by decide⟩, ⟨"- b\rc".toList, false, by decide, by decide⟩,
        ⟨"d".toList, true, by decide, by decide⟩]
    assemble lines = "- a\r\n- b\rc\nd\r".toList ∧ lines ≠ [] ∧
      (Document.ofText (assemble lines)).texts = ["- a".toList, "- b\rc".toList, "d".toList] ∧
      Markup.render (assemble lines) = Markup.render "- a\n- b\rc\nd".toList := by
  intro lines
  have hlines : lines ≠ [] := List.cons_ne_nil _ _
  obtain ⟨htexts, -, hrender, -⟩ := line_endings_normalized hlines {}
  exact ⟨by decide, hlines, htexts, hrender⟩

end Assemble

end SourceLine

end MarkupEditor
