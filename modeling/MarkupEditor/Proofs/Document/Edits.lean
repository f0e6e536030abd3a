import MarkupEditor.Proofs.Document.WellFormed

/-!
# Edits

A document changes by edits: some neighbouring lines give way to others, and the lines above and
below stay. The patch of an edit names the places of the lines it wrote. This is all that a copy of
the document needs to follow it, and all that an invariant needs to survive.
-/

namespace MarkupEditor

/-- The texts above a change, those that it removes, those that it writes, and those below it. -/
structure Edit where
  above : List Text
  removed : List Text
  written : List Text
  below : List Text

namespace Edit

def before (edit : Edit) : List Text :=
  edit.above ++ edit.removed ++ edit.below

def after (edit : Edit) : List Text :=
  edit.above ++ edit.written ++ edit.below

/-- The places of the written lines. -/
def range (edit : Edit) : LineRange where
  start := edit.above.length
  stop := edit.above.length + edit.written.length

theorem length_before (edit : Edit) :
    edit.before.length = edit.above.length + edit.removed.length + edit.below.length := by
  simp only [before, List.length_append]

theorem length_after (edit : Edit) :
    edit.after.length = edit.above.length + edit.written.length + edit.below.length := by
  simp only [after, List.length_append]

theorem take_before (edit : Edit) : edit.before.take edit.range.start = edit.above := by
  rw [before, List.append_assoc]
  exact List.take_left

theorem drop_before (edit : Edit) :
    edit.before.drop (edit.above.length + edit.removed.length) = edit.below :=
  List.drop_left' List.length_append

theorem segment_after (edit : Edit) :
    (edit.after.take edit.range.stop).drop edit.range.start = edit.written := by
  have htake : edit.after.take edit.range.stop = edit.above ++ edit.written :=
    List.take_left' List.length_append
  rw [htake]
  exact List.drop_left

end Edit

namespace Document

/-- The edit leads from one document to the next, and the patch reports it. An edit writes a line at
least, and breaks none. -/
structure Edited (doc : Document) (edit : Edit) (patch : Patch) (next : Document) : Prop where
  texts_eq : doc.texts = edit.before
  next_eq : next = ofTexts edit.after (doc.version + 1)
  patch_eq : patch = ⟨edit.range, doc.version + 1⟩
  written_ne_nil : edit.written ≠ []
  newline_not_mem : ∀ text ∈ edit.written, '\n' ∉ text

section Edited

variable {doc next : Document} {edit : Edit} {patch : Patch}

namespace Edited

theorem texts_next (hedited : doc.Edited edit patch next) : next.texts = edit.after := by
  rw [hedited.next_eq, texts_ofTexts]

theorem version_eq (hedited : doc.Edited edit patch next) : patch.version = next.version := by
  rw [hedited.patch_eq, hedited.next_eq]
  rfl

theorem wellFormed (hedited : doc.Edited edit patch next) (hdoc : doc.WellFormed) :
    next.WellFormed := by
  rw [hedited.next_eq]
  apply wellFormed_ofTexts
  · intro hnil
    rw [Edit.after, List.append_eq_nil_iff, List.append_eq_nil_iff] at hnil
    exact hedited.written_ne_nil hnil.1.2
  · intro text htext
    rw [Edit.after, List.mem_append, List.mem_append] at htext
    rcases htext with (habove | hwritten) | hbelow
    · exact hdoc.newline_not_mem text (by simp [hedited.texts_eq, Edit.before, habove])
    · exact hedited.newline_not_mem text hwritten
    · exact hdoc.newline_not_mem text (by simp [hedited.texts_eq, Edit.before, hbelow])

/-- What holds of the lines and of what is written in the place of some of them holds of all lines
behind the edit. -/
theorem forall_texts {holds : Text → Prop} (hedited : doc.Edited edit patch next)
    (htexts : ∀ text ∈ doc.texts, holds text)
    (hwritten : (∀ text ∈ edit.removed, holds text) → ∀ text ∈ edit.written, holds text) :
    ∀ text ∈ next.texts, holds text := by
  rw [hedited.texts_eq, Edit.before] at htexts
  simp only [List.forall_mem_append] at htexts
  rw [hedited.texts_next, Edit.after]
  simp only [List.forall_mem_append]
  exact ⟨⟨htexts.1.1, hwritten htexts.1.2⟩, htexts.2⟩

/-- An edit that keeps what it removes, line by line and with the line feeds, keeps the text. -/
theorem text_sublist (hedited : doc.Edited edit patch next)
    (hsub : (edit.removed.flatMap fun line => '\n' :: line).Sublist
      (edit.written.flatMap fun line => '\n' :: line)) :
    doc.text.Sublist next.text := by
  rw [Document.text, Document.text, hedited.texts_eq, hedited.texts_next]
  apply Text.unlines_sublist
  simp only [Edit.before, Edit.after, List.flatMap_append]
  exact ((List.Sublist.refl _).append hsub).append (List.Sublist.refl _)

end Edited

/-- Reading new text is an edit of the whole document. -/
theorem edited_replaceText (doc : Document) (text : Text) :
    doc.Edited ⟨[], doc.texts, text.lines, []⟩ ⟨⟨0, text.lines.length⟩, doc.version + 1⟩
      (doc.replaceText text).bump where
  texts_eq := by simp [Edit.before]
  next_eq := by
    rw [replaceText, ofText_eq_ofTexts, Edit.after, List.nil_append, List.append_nil]
    rfl
  patch_eq := by simp [Edit.range]
  written_ne_nil := Text.lines_ne_nil text
  newline_not_mem _ := Text.newline_not_mem_of_mem_lines

/-- Inserting lines is an edit that removes nothing. -/
theorem edited_insertLines (hdoc : doc.WellFormed) {place : Nat} (hplace : place ≤ doc.lineCount)
    {texts : List Text} (htexts : texts ≠ []) (hnewline : ∀ text ∈ texts, '\n' ∉ text) :
    doc.Edited ⟨doc.texts.take place, [], texts, doc.texts.drop place⟩
      ⟨⟨place, place + texts.length⟩, doc.version + 1⟩ (doc.insertLines place texts).bump where
  texts_eq := by simp [Edit.before]
  next_eq := by
    have hinsert := insertLines_ofTexts doc.texts doc.version place texts
    rw [← hdoc.eq_ofTexts] at hinsert
    rw [hinsert]
    rfl
  patch_eq := by
    rw [← length_texts] at hplace
    have habove := List.length_take_of_le hplace
    simp only [Edit.range, habove]
  written_ne_nil := htexts
  newline_not_mem := hnewline

end Edited

end Document

end MarkupEditor
