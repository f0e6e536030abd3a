import MarkupEditor.Proofs.Command.Rendering
import MarkupEditor.Proofs.Markup.Concatenation
import MarkupEditor.Proofs.Session.Edits

/-!
# Commands on whole lines

Markup in front of a line decides what the line is, whatever the line was before. So a command on a
whole line, or on an empty place, writes a line that is rendered as the command means. Over several
lines the list-like commands write one front for each line and blank lines around them: the lines are
rendered as one block by itself, and the passages above and below it as they are without it.
-/

namespace MarkupEditor

namespace Command

open Markup

variable {command : Command}

section Blocks

variable {line : Text} {texts above below : List Text}

/-- The HTML of the block that a list-like command makes of lines read from a source: a list with one
item for each line, or one quote for each line. -/
def blockHtml (command : Command) (texts : List Text) : Text :=
  match command.listKind? with
  | some kind =>
    kind.openTag ++ texts.flatMap (fun text => command.html text.dropReturn) ++ kind.closeTag
  | none => Text.unlines (texts.map fun text => command.html text.dropReturn)

theorem exists_markupLine? (hcommand : command ∈ [orderedList, unorderedList, blockquote])
    (line : Text) (counter : Nat) : ∃ written, command.markupLine? line counter = some written := by
  simp only [List.mem_cons, List.not_mem_nil, or_false] at hcommand
  rcases hcommand with rfl | rfl | rfl <;> exact ⟨_, rfl⟩

/-- A line that a list-like command has rewritten is read as what the command means by the line. -/
theorem renderLine_markupLine? (hcommand : command ∈ [orderedList, unorderedList, blockquote])
    (hline : '\n' ∉ line) (counter : Nat) :
    renderLine ((command.markupLine? line counter).getD line).dropReturn =
        command.html line.dropReturn ∧
      classify ((command.markupLine? line counter).getD line).dropReturn = command.listKind? := by
  obtain ⟨written, hwritten⟩ := exists_markupLine? hcommand line counter
  have hnewline : '\n' ∉ written := by
    have hmarkup := @newline_not_mem_markupLine? command line hline counter
    rwa [hwritten] at hmarkup
  obtain ⟨front, hfront, hspace, rfl⟩ := exists_front_of_markupLine? hwritten
  have hreturn : front.getLast? ≠ some '\r' := by
    rw [hspace]
    decide
  have hrule : command.construct ≠ .rule := by
    rw [Ne, construct_eq_rule_iff]
    rintro rfl
    contradiction
  rw [hwritten, Option.getD_some, Text.dropReturn_append hreturn]
  refine renderLine_front hfront ?_ fun hconstruct => absurd hconstruct hrule
  rw [← Text.dropReturn_append hreturn]
  exact fun hmem => hnewline (Text.mem_of_mem_dropReturn hmem)

theorem map_renderLine_rewriteTexts (hcommand : command ∈ [orderedList, unorderedList, blockquote])
    (htexts : ∀ text ∈ texts, '\n' ∉ text) :
    ((command.rewriteTexts texts).map Text.dropReturn).map renderLine =
      texts.map fun text => command.html text.dropReturn := by
  apply List.ext_getElem?
  intro i
  simp only [rewriteTexts, List.getElem?_map, List.getElem?_mapIdx, Option.map_map]
  cases hget : texts[i]? with
  | none => rfl
  | some text =>
      have hnewline := htexts text (List.mem_of_getElem? hget)
      exact congrArg some (renderLine_markupLine? hcommand hnewline (i + 1)).1

theorem classify_of_mem_rewriteTexts
    (hcommand : command ∈ [orderedList, unorderedList, blockquote])
    (htexts : ∀ text ∈ texts, '\n' ∉ text) :
    ∀ written ∈ (command.rewriteTexts texts).map Text.dropReturn,
      classify written = command.listKind? := by
  intro written hwritten
  obtain ⟨rewritten, hmem, rfl⟩ := List.mem_map.mp hwritten
  obtain ⟨place, hplace, rfl⟩ := List.mem_mapIdx.mp hmem
  exact (renderLine_markupLine? hcommand (htexts _ (List.getElem_mem hplace)) (place + 1)).2

/-- The lines that a list-like command writes are one list, or lines by themselves. -/
theorem blocks_rewriteTexts (hcommand : command ∈ [orderedList, unorderedList, blockquote])
    (htexts : texts ≠ []) (hnewline : ∀ text ∈ texts, '\n' ∉ text) :
    blocks ((command.rewriteTexts texts).map Text.dropReturn) =
      match command.listKind? with
      | some kind => [.run kind ((command.rewriteTexts texts).map Text.dropReturn)]
      | none => ((command.rewriteTexts texts).map Text.dropReturn).map .line := by
  have hkind := classify_of_mem_rewriteTexts hcommand hnewline
  have hrewritten : (command.rewriteTexts texts).map Text.dropReturn ≠ [] := by
    rw [Ne, List.map_eq_nil_iff]
    exact rewriteTexts_ne_nil htexts
  split
  · rename_i kind hlist
    rw [hlist] at hkind
    exact blocks_of_forall_item hrewritten hkind
  · rename_i hlist
    rw [hlist] at hkind
    exact blocks_of_forall_line hkind

/-- A block that a list-like command has rewritten is rendered as the command means. -/
theorem render_rewriteTexts (hcommand : command ∈ [orderedList, unorderedList, blockquote])
    (htexts : texts ≠ []) (hnewline : ∀ text ∈ texts, '\n' ∉ text) :
    render (Text.unlines (command.rewriteTexts texts)) = command.blockHtml texts := by
  have hrendered := map_renderLine_rewriteTexts hcommand hnewline
  have hitems : ((command.rewriteTexts texts).map Text.dropReturn).flatMap renderLine =
      texts.flatMap fun text => command.html text.dropReturn := by
    rw [List.flatMap_def, hrendered, List.flatMap_def]
  rw [render_unlines (rewriteTexts_ne_nil htexts) (newline_not_mem_rewriteTexts hnewline),
    blockHtmls, blocks_rewriteTexts hcommand htexts hnewline, blockHtml]
  cases command.listKind? with
  | none =>
      rw [← hrendered]
      simp only [List.map_map]
      rfl
  | some kind => simp [Block.html, hitems, Text.unlines_cons]

theorem blockTexts_between (hcommand : command ∈ [orderedList, unorderedList, blockquote])
    (texts above below : List Text) :
    above ++ command.blockTexts texts ++ below =
      above ++ [] :: command.rewriteTexts texts ++ [] :: below := by
  have hpads : command.padsBlock = true := by
    simp only [List.mem_cons, List.not_mem_nil, or_false] at hcommand
    rcases hcommand with rfl | rfl | rfl <;> rfl
  simp [blockTexts, hpads]

/-- The block is rendered by itself, and so are the passages above and below it. -/
theorem render_blockTexts (hcommand : command ∈ [orderedList, unorderedList, blockquote])
    (htexts : texts ≠ []) (hnewline : ∀ text ∈ above ++ texts ++ below, '\n' ∉ text) :
    render (Text.unlines (above ++ command.blockTexts texts ++ below)) = Text.unlines
      (renderPassage above ++ [[], command.blockHtml texts, []] ++ renderPassage below) := by
  simp only [List.forall_mem_append] at hnewline
  obtain ⟨⟨habove, hinner⟩, hbelow⟩ := hnewline
  have hwritten : ∀ text ∈ above ++ [] :: command.rewriteTexts texts ++ [] :: below,
      '\n' ∉ text := by
    simp only [List.forall_mem_append, List.forall_mem_cons]
    exact ⟨⟨habove, List.not_mem_nil, newline_not_mem_rewriteTexts hinner⟩, List.not_mem_nil, hbelow⟩
  rw [blockTexts_between hcommand, render_passages (rewriteTexts_ne_nil htexts) hwritten,
    render_rewriteTexts hcommand htexts hinner]

/-- A list is one run, which no line from around it joins. -/
theorem blocks_blockTexts {kind : ListKind}
    (hcommand : command ∈ [orderedList, unorderedList, blockquote])
    (hkind : command.listKind? = some kind) (htexts : texts ≠ [])
    (hnewline : ∀ text ∈ texts, '\n' ∉ text) :
    blocks ((above ++ command.blockTexts texts ++ below).map Text.dropReturn) =
      blocks (above.map Text.dropReturn) ++
        [.line [], .run kind ((command.rewriteTexts texts).map Text.dropReturn), .line []] ++
          blocks (below.map Text.dropReturn) := by
  rw [blockTexts_between hcommand, blocks_passages, blocks_rewriteTexts hcommand htexts hnewline,
    hkind]
  simp

end Blocks

section Lines

variable {text value : Text} {texts : List Text} {index start stop : Nat}

/-- The text of the line that a command on a single line writes. -/
def writtenText (command : Command) (text : Text) (start stop : Nat) : Text :=
  if command = horizontalRule then "---".toList
  else if start < stop then
    text.take start ++ command.markup ((text.drop start).take (stop - start)) ++ text.drop stop
  else command.markup []

theorem getElem?_writtenLine (htext : texts[index]? = some text) :
    (texts.take index ++ command.lineTexts text start stop ++
        texts.drop (index + 1))[command.writtenLine index start stop]? =
      some (command.writtenText text start stop) := by
  obtain ⟨hlt, -⟩ := List.getElem?_eq_some_iff.mp htext
  have habove : (texts.take index).length = index := List.length_take_of_le (Nat.le_of_lt hlt)
  rw [List.append_assoc, writtenLine, lineTexts, writtenText]
  by_cases hrule : command = horizontalRule
  · simp [hrule, habove]
  · by_cases hrange : start < stop
    · have hplace : ¬ stop ≤ start := Nat.not_le.mpr hrange
      simp [hrule, hrange, hplace, habove]
    · have hplace : stop ≤ start := Nat.not_lt.mp hrange
      by_cases hcaret : 0 < stop
      · simp [hrule, hrange, hplace, hcaret, habove]
      · simp [hrule, hrange, hcaret, habove]

/-- At a caret nothing is marked, and over a whole line its text. -/
theorem writtenText_eq_markup (hrule : command ≠ horizontalRule)
    (hvalue : start = stop ∧ value = [] ∨ start = 0 ∧ stop = text.length ∧ value = text) :
    command.writtenText text start stop = command.markup value := by
  rw [writtenText, if_neg hrule]
  rcases hvalue with ⟨rfl, rfl⟩ | ⟨rfl, rfl, rfl⟩
  · rw [if_neg (Nat.lt_irrefl start)]
  · by_cases hlength : 0 < value.length
    · simp [hlength]
    · obtain rfl : value = [] := List.eq_nil_of_length_eq_zero (by omega)
      rfl

end Lines

end Command

namespace Session

open Markup

/-- **Lists and quotes stand by themselves.** In every session that a host can reach with several lines
selected, a list-like command that is allowed has an effect, and the new text is rendered as what is
above the selected lines, a blank line, the block that the command makes of them, a blank line, and what
is below. A list has one item for each selected line and takes in no line from around it. -/
theorem render_apply_block (text : Text) (options : Options) (operations : List Operation)
    (selection : Selection) (command : Command)
    (hcommand : command ∈ [.orderedList, .unorderedList, .blockquote]) :
    let session := (start text options).performAll operations
    session.selection = some selection → selection.isMultiline = true →
    session.options.allows command = true →
    ∃ above selected below patch next,
      session.document.texts = above ++ selected ++ below ∧
      above.length = selection.startLine ∧
      selected.length = selection.endLine + 1 - selection.startLine ∧
      session.apply command = some (patch, next) ∧
      next.render = Text.unlines
        (renderPassage above ++ [[], command.blockHtml selected, []] ++ renderPassage below) ∧
      ∀ kind, command.listKind? = some kind → ∃ items, items.length = selected.length ∧
        blocks next.text.lines = blocks (above.map Text.dropReturn) ++
          [.line [], .run kind items, .line []] ++ blocks (below.map Text.dropReturn) := by
  intro session hselection hmultiline hallows
  obtain ⟨hdoc, hcurrent⟩ : session.Sound := sound_of_start text options operations
  have hselected := hcurrent selection hselection
  obtain ⟨edit, patch, document, hformat, hedited, hwrites, habove, hlength⟩ :=
    Document.exists_edit_of_isMultiline hdoc hselected hmultiline
  have happly := apply_of_format hallows hselection hformat
  obtain ⟨hremoved, hwritten⟩ := hwrites.eq_blockTexts
  have hnewline : ∀ text ∈ edit.above ++ edit.removed ++ edit.below, '\n' ∉ text := by
    have hbefore := hdoc.newline_not_mem
    rwa [hedited.texts_eq] at hbefore
  have hnext : document.texts = edit.above ++ command.blockTexts edit.removed ++ edit.below := by
    rw [hedited.texts_next, Edit.after, hwritten]
  refine ⟨edit.above, edit.removed, edit.below, patch, _, hedited.texts_eq, habove, hlength,
    happly, ?_, ?_⟩
  · rw [render, Session.text, Document.text, hnext]
    exact Command.render_blockTexts hcommand hremoved hnewline
  · intro kind hkind
    simp only [List.forall_mem_append] at hnewline
    have hlines : document.text.lines = document.texts.map Text.dropReturn := by
      have hafter := hedited.wellFormed hdoc
      exact Text.lines_unlines hafter.texts_ne_nil hafter.newline_not_mem
    refine ⟨(command.rewriteTexts edit.removed).map Text.dropReturn, by simp, ?_⟩
    rw [Session.text, hlines, hnext]
    exact Command.blocks_blockTexts hcommand hkind hremoved hnewline.1.2

/-- A list between lists of its kind, over a heading and an item. -/
theorem render_apply_between_lists :
    let session := (start "- up\n# *a*\r\r\n- b\n- down".toList {}).performAll
      [.select ⟨2, 1⟩ ⟨1, 0⟩]
    ∃ patch next, session.apply .unorderedList = some (patch, next) ∧
      next.render = ("<ul><li>up</li></ul>\n\n<ul><li># <em>a</em></li><li>- b</li></ul>\n\n" ++
        "<ul><li>down</li></ul>").toList := by
  intro session
  have hselection : session.selection = some ⟨1, 2, 0, 1, [⟨1, "# *a*\r".toList⟩, ⟨2, "- b".toList⟩],
      "# *a*\r\n- b".toList⟩ := by decide
  obtain ⟨above, selected, below, patch, next, htexts, habove, hselected, happly, hrender, -⟩ :=
    render_apply_block _ _ _ _ .unorderedList (by decide) hselection (by decide) (by decide)
  have hlines : ["- up".toList] ++ ["# *a*\r".toList, "- b".toList] ++ ["- down".toList] =
      above ++ selected ++ below := by
    rw [← htexts]
    decide
  have hlength : (["- up".toList] ++ ["# *a*\r".toList, "- b".toList]).length =
      (above ++ selected).length := by
    rw [@List.length_append _ above selected, habove, hselected]
    rfl
  obtain ⟨hfront, rfl⟩ := List.append_inj hlines hlength
  obtain ⟨rfl, rfl⟩ := List.append_inj hfront habove.symm
  exact ⟨patch, next, happly, hrender.trans (by decide)⟩

/-- **Markup of whole lines.** In every session that a host can reach with a selection within one line,
a command that is allowed writes one line. A rule is rendered as such. A heading, a quote or an item over
the whole line is rendered as what the command means by the text of the line, even if the line starts
like a heading, a quote, an item or a rule already; at a caret the text is empty. The items are items of
their kind of list, and headings and quotes are none. -/
theorem renderLine_apply_line (text : Text) (options : Options) (operations : List Operation)
    (selection : Selection) (command : Command) :
    let session := (start text options).performAll operations
    session.selection = some selection → selection.isMultiline = false →
    session.options.allows command = true →
    ∃ line patch next written,
      session.document.texts[selection.startLine]? = some line ∧
      session.apply command = some (patch, next) ∧
      patch.changed.start = command.writtenLine selection.startLine selection.startOffset
        selection.endOffset ∧
      patch.changed.stop = patch.changed.start + 1 ∧
      next.document.texts[patch.changed.start]? = some written ∧
      (command = .horizontalRule → renderLine written = "<hr>".toList) ∧
      (command ∈ [.heading, .blockquote, .orderedList, .unorderedList] → ∀ value,
        (selection.isCaret = true ∧ value = [] ∨
          selection.startOffset = 0 ∧ selection.endOffset = line.length ∧ value = line) →
        renderLine written = command.html value ∧ classify written = command.listKind?) := by
  intro session hselection hsingle hallows
  obtain ⟨hdoc, hcurrent⟩ : session.Sound := sound_of_start text options operations
  obtain ⟨hlast, line, hline, -⟩ :=
    Document.exists_selected_text (hcurrent selection hselection) hsingle
  have hformat := @Document.format_of_not_isMultiline session.document.texts
    session.document.version command selection line hline hlast hsingle
  rw [← hdoc.eq_ofTexts] at hformat
  have happly := apply_of_format hallows hselection hformat
  refine ⟨line, _, _, command.writtenText line selection.startOffset selection.endOffset, hline,
    happly, rfl, rfl, ?_, ?_, ?_⟩
  · rw [Document.texts_ofTexts]
    exact Command.getElem?_writtenLine hline
  · rintro rfl
    rfl
  · intro hcommand value hvalue
    have hmem : command ≠ .horizontalRule ∧ command.construct ∉ inlineConstructs := by
      simp only [List.mem_cons, List.not_mem_nil, or_false] at hcommand
      rcases hcommand with rfl | rfl | rfl | rfl <;> decide
    have hnewline : '\n' ∉ value := by
      rcases hvalue with ⟨-, rfl⟩ | ⟨-, -, rfl⟩
      · exact List.not_mem_nil
      · exact hdoc.newline_not_mem value (List.mem_of_getElem? hline)
    rw [Selection.isCaret, beq_iff_eq] at hvalue
    rw [Command.writtenText_eq_markup hmem.1 hvalue]
    exact Command.renderLine_markup hmem.2 hnewline

/-- An item of one kind becomes the text of an item of the other. -/
theorem renderLine_apply_item :
    let session := (start "intro\n- *a* 3. ".toList {}).performAll [.select ⟨1, 9⟩ ⟨1, 0⟩]
    ∃ patch next written,
      session.apply .orderedList = some (patch, next) ∧
      next.document.texts[patch.changed.start]? = some written ∧
      renderLine written = "<li>- <em>a</em> 3. </li>".toList ∧
      classify written = some .ordered := by
  intro session
  have hselection : session.selection = some ⟨1, 1, 0, 9, [⟨1, "- *a* 3. ".toList⟩],
      "- *a* 3. ".toList⟩ := by decide
  obtain ⟨line, patch, next, written, hline, happly, -, -, hwritten, -, hrender⟩ :=
    renderLine_apply_line _ _ _ _ .orderedList hselection (by decide) (by decide)
  have htext : session.document.texts[1]? = some "- *a* 3. ".toList := by decide
  obtain rfl : "- *a* 3. ".toList = line := Option.some.inj (htext.symm.trans hline)
  obtain ⟨hhtml, hkind⟩ := hrender (by decide) "- *a* 3. ".toList (Or.inr (by decide))
  exact ⟨patch, next, written, happly, hwritten, hhtml.trans (by decide), hkind⟩

end Session

end MarkupEditor
