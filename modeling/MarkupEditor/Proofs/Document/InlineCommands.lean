import MarkupEditor.Proofs.Command.Rendering

/-!
# Commands on a part of a line

A command on some characters of a line puts its markup in their place. If the line is plain, no other
markup is in it that could combine with what the command writes. So it is rendered with the characters
marked as the command means, and with everything around them as it was, whatever characters these are.
A link is the exception: behind an exclamation mark it completes an image.
-/

namespace MarkupEditor.Document

open Markup

variable {doc : Document} {command : Command} {text : Text} {index start stop : Nat}

/-- Two different offsets of a line select the characters between them, in either order. -/
theorem select_range {anchor focus : Position} {line : Line} (hsame : anchor.line = focus.line)
    (hline : doc.line? anchor.line = some line) (hne : anchor.offset ≠ focus.offset)
    (hstop : max anchor.offset focus.offset ≤ line.text.length) :
    doc.select anchor focus = some
      { startLine := anchor.line
        endLine := anchor.line
        startOffset := min anchor.offset focus.offset
        endOffset := max anchor.offset focus.offset
        lines := [line]
        rawText := line.text.slice (min anchor.offset focus.offset)
          (max anchor.offset focus.offset) } := by
  have hlow : min (min anchor.offset focus.offset) line.length =
      min anchor.offset focus.offset := by
    rw [Line.length]
    omega
  have hhigh : min (max anchor.offset focus.offset) line.length =
      max anchor.offset focus.offset := Nat.min_eq_left hstop
  have hpositive : max anchor.offset focus.offset ≠ 0 := by omega
  rw [select_of_line_eq hsame hline, hlow, hhigh, if_neg fun hcaret => hpositive hcaret.1]

/-- The markup of the selected characters takes their place, and all other lines stay. -/
theorem format_range (hdoc : doc.WellFormed) (htext : doc.texts[index]? = some text)
    (hrange : start < stop) (hstop : stop ≤ text.length) (hrule : command ≠ .horizontalRule) :
    ∃ selection patch next,
      doc.select ⟨index, start⟩ ⟨index, stop⟩ = some selection ∧
        doc.select ⟨index, stop⟩ ⟨index, start⟩ = some selection ∧
          doc.format command selection = some (patch, next) ∧
            next.texts = doc.texts.set index (text.take start ++
              command.markup ((text.drop start).take (stop - start)) ++ text.drop stop) := by
  obtain ⟨hlt, -⟩ := List.getElem?_eq_some_iff.mp htext
  have hline : doc.line? index = some ⟨index, text⟩ := by
    rw [hdoc.eq_ofTexts, line?_ofTexts, htext, Option.map_some]
  have hstart : start ≤ text.length := by omega
  have hmin : min start stop = start := Nat.min_eq_left (Nat.le_of_lt hrange)
  have hmax : max start stop = stop := Nat.max_eq_right (Nat.le_of_lt hrange)
  have hforward := @select_range doc ⟨index, start⟩ ⟨index, stop⟩ _ rfl hline hrange.ne
    (Nat.max_le.mpr ⟨hstart, hstop⟩)
  have hbackward := @select_range doc ⟨index, stop⟩ ⟨index, start⟩ _ rfl hline hrange.ne'
    (Nat.max_le.mpr ⟨hstop, hstart⟩)
  simp only [hmin, hmax] at hforward
  simp only [Nat.min_comm stop, Nat.max_comm stop, hmin, hmax] at hbackward
  have hsingle : (Selection.mk index index start stop [⟨index, text⟩]
      (text.slice start stop)).isMultiline = false := rfl
  have hformat := @format_of_not_isMultiline doc.texts doc.version command _ text htext hlt hsingle
  rw [← hdoc.eq_ofTexts] at hformat
  refine ⟨_, _, _, hforward, hbackward, hformat, ?_⟩
  rw [texts_ofTexts, List.set_eq_take_append_cons_drop, if_pos hlt, Command.lineTexts,
    if_neg hrule, if_pos hrange, List.append_assoc, List.singleton_append]

theorem plainLine_span (hplain : PlainLine text) (hle : start ≤ stop) :
    PlainLine (text.take start ++ (text.drop start).take (stop - start) ++ text.drop stop) := by
  rwa [Text.take_append_span hle]

/-- **Marked ranges.** Bold, italic, code and image on some characters of a plain line: the line that
they write is rendered with just these characters marked, and as before on both sides of them. -/
theorem renderLine_marked_range (hdoc : doc.WellFormed) (htext : doc.texts[index]? = some text)
    (hplain : PlainLine text) (hrange : start < stop) (hstop : stop ≤ text.length)
    (hcommand : command ∈ [.bold, .italic, .code, .image]) :
    ∃ selection patch next written,
      doc.select ⟨index, start⟩ ⟨index, stop⟩ = some selection ∧
      doc.select ⟨index, stop⟩ ⟨index, start⟩ = some selection ∧
      doc.format command selection = some (patch, next) ∧
      next.texts = doc.texts.set index written ∧
      renderLine written = text.take start ++
        command.html ((text.drop start).take (stop - start)) ++ text.drop stop := by
  have hrule : command ≠ .horizontalRule := by
    rintro rfl
    contradiction
  obtain ⟨selection, patch, next, hforward, hbackward, hformat, hwritten⟩ :=
    format_range hdoc htext hrange hstop hrule
  have hparts := plainLine_span hplain (Nat.le_of_lt hrange)
  have hrender := Command.renderLine_markup_between hcommand
    (Text.span_ne_nil hrange hstop) hparts
  exact ⟨selection, patch, next, _, hforward, hbackward, hformat, hwritten, hrender⟩

/-- An image behind an exclamation mark, in the middle of a document. -/
theorem renderLine_marked_image :
    let doc := ofText "- item\nwow! día\n> quote".toList
    PlainLine "wow! día".toList ∧
      ∃ selection patch next written,
        doc.select ⟨1, 4⟩ ⟨1, 7⟩ = some selection ∧
        doc.select ⟨1, 7⟩ ⟨1, 4⟩ = some selection ∧
        doc.format .image selection = some (patch, next) ∧
        next.texts = ["- item".toList, written, "> quote".toList] ∧
        renderLine written = "wow!<img src=\"image.jpg\" alt=\" dí\">a".toList := by
  intro doc
  have hplain : PlainLine "wow! día".toList :=
    ⟨by decide, by decide, by simp, by simp, by decide⟩
  have hdoc : doc.WellFormed := wellFormed_ofText _
  have htext : doc.texts[1]? = some "wow! día".toList := by decide
  exact ⟨hplain, renderLine_marked_range hdoc htext hplain (by decide) (by decide) (by decide)⟩

/-- **Linked ranges.** A link on some characters of a plain line is rendered as an anchor around them,
with everything else as it was, unless an exclamation mark stands in front of them. Since images are
read before links, the mark and the link are then rendered as an image. -/
theorem renderLine_linked_range (hdoc : doc.WellFormed) (htext : doc.texts[index]? = some text)
    (hplain : PlainLine text) (hrange : start < stop) (hstop : stop ≤ text.length) :
    ∃ selection patch next written,
      doc.select ⟨index, start⟩ ⟨index, stop⟩ = some selection ∧
      doc.select ⟨index, stop⟩ ⟨index, start⟩ = some selection ∧
      doc.format .link selection = some (patch, next) ∧
      next.texts = doc.texts.set index written ∧
      ((text.take start).getLast? ≠ some '!' →
        renderLine written = text.take start ++
          Command.link.html ((text.drop start).take (stop - start)) ++ text.drop stop) ∧
      ∀ front, text.take start = front ++ ['!'] →
        renderLine written = front ++
          imageHtml ((text.drop start).take (stop - start)) "https://www.example.com".toList ++
            text.drop stop := by
  obtain ⟨selection, patch, next, hforward, hbackward, hformat, hwritten⟩ :=
    @format_range doc .link text index start stop hdoc htext hrange hstop (by decide)
  have hvalue := Text.span_ne_nil hrange hstop
  have hparts := plainLine_span hplain (Nat.le_of_lt hrange)
  refine ⟨selection, patch, next, _, hforward, hbackward, hformat, hwritten, ?_, ?_⟩
  · intro hend
    exact Command.renderLine_link_between hvalue hparts hend
  · intro front hfront
    have hcons (inner : Text) : front ++ ['!'] ++ inner ++ text.drop stop =
        front ++ '!' :: inner ++ text.drop stop := by
      rw [List.append_assoc front, List.singleton_append]
    rw [hfront, hcons] at hparts ⊢
    exact Command.renderLine_exclamation_link hvalue hparts

/-- A link one character behind an exclamation mark, and one right behind it. -/
theorem renderLine_linked_word :
    let doc := ofText "- item\nwow! día".toList
    (∃ selection patch next written,
      doc.select ⟨1, 5⟩ ⟨1, 8⟩ = some selection ∧
      doc.format .link selection = some (patch, next) ∧
      next.texts = ["- item".toList, written] ∧
      renderLine written = "wow! <a href=\"https://www.example.com\">día</a>".toList) ∧
    ∃ selection patch next written,
      doc.select ⟨1, 4⟩ ⟨1, 7⟩ = some selection ∧
      doc.format .link selection = some (patch, next) ∧
      next.texts = ["- item".toList, written] ∧
      renderLine written = "wow<img src=\"https://www.example.com\" alt=\" dí\">a".toList := by
  intro doc
  have hplain : PlainLine "wow! día".toList :=
    ⟨by decide, by decide, by simp, by simp, by decide⟩
  have hdoc : doc.WellFormed := wellFormed_ofText _
  have htext : doc.texts[1]? = some "wow! día".toList := by decide
  obtain ⟨selection, patch, next, written, hselect, -, hformat, htexts, hanchor, -⟩ :=
    renderLine_linked_range hdoc htext hplain (show 5 < 8 by decide) (by decide)
  obtain ⟨selection', patch', next', written', hselect', -, hformat', htexts', -, himage⟩ :=
    renderLine_linked_range hdoc htext hplain (show 4 < 7 by decide) (by decide)
  exact ⟨⟨selection, patch, next, written, hselect, hformat, htexts, hanchor (by decide)⟩,
    selection', patch', next', written', hselect', hformat', htexts', himage "wow".toList (by decide)⟩

/-- The exclamation mark of a plain line is drawn into a link behind it. -/
theorem not_anchor_behind_exclamation :
    PlainLine "!a".toList ∧
      ∃ selection patch next written,
        (ofText "!a".toList).select ⟨0, 1⟩ ⟨0, 2⟩ = some selection ∧
        (ofText "!a".toList).format .link selection = some (patch, next) ∧
        next.texts = [written] ∧
        renderLine written = "<img src=\"https://www.example.com\" alt=\"a\">".toList ∧
        renderLine written ≠ "!<a href=\"https://www.example.com\">a</a>".toList := by
  have hplain : PlainLine "!a".toList :=
    ⟨by decide, by decide, by simp, by simp, by decide⟩
  have himage : renderLine "![a](https://www.example.com)".toList =
      "<img src=\"https://www.example.com\" alt=\"a\">".toList := by decide
  refine ⟨hplain, ⟨0, 0, 1, 2, [⟨0, "!a".toList⟩], "a".toList⟩, ⟨⟨0, 1⟩, 1⟩,
    ofTexts ["![a](https://www.example.com)".toList] 1, _, by decide, by decide, by decide, himage, ?_⟩
  rw [himage]
  decide

end MarkupEditor.Document
