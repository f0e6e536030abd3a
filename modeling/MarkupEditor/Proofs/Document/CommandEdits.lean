import MarkupEditor.Proofs.Document.Edits
import MarkupEditor.Proofs.Document.Formatting

/-!
# The edits of commands

A command that has an effect makes one edit, and what it may write in the place of what has five
shapes: a rule for a line, markup around a range, markup below a caret, markup for an empty line,
and a block for several lines. Apart from the rule, each keeps the removed text inside the written
one, and none writes a line feed into a line.
-/

namespace MarkupEditor

namespace Command

section Markup

variable {command : Command} {value placeholder : Text} {c : Char}

theorem sublist_orPlaceholder (value placeholder : Text) :
    value.Sublist (orPlaceholder value placeholder) := by
  unfold orPlaceholder
  split
  · rename_i hempty
    rw [List.isEmpty_iff.mp hempty]
    exact List.nil_sublist _
  · exact List.Sublist.refl _

theorem sublist_between {front body behind : Text} (hbody : value.Sublist body) :
    value.Sublist (front ++ body ++ behind) :=
  hbody.trans (List.infix_append front body behind).sublist

/-- All markup but the rule shows its value. -/
theorem sublist_markup (hrule : command ≠ horizontalRule) (value : Text) :
    value.Sublist (command.markup value) := by
  cases command with
  | horizontalRule => contradiction
  | heading | blockquote | orderedList | unorderedList => exact List.sublist_append_right _ _
  | bold | italic | code | link | image => exact sublist_between (sublist_orPlaceholder _ _)

theorem sublist_markupLine? (command : Command) (line : Text) (counter : Nat) :
    line.Sublist ((command.markupLine? line counter).getD line) := by
  cases command with
  | blockquote | orderedList | unorderedList => exact List.sublist_append_right _ _
  | heading | bold | italic | code | horizontalRule | link | image => exact List.Sublist.refl _

/-- No command writes the character by itself. -/
def Foreign (c : Char) : Prop :=
  c.isDigit = false ∧ ∀ command ∈ all, c ∉ command.markup []

instance (c : Char) : Decidable (Foreign c) :=
  inferInstanceAs (Decidable (_ ∧ _))

theorem foreign_newline : Foreign '\n' := by
  decide

theorem not_mem_orPlaceholder (hvalue : c ∉ value) (hplaceholder : c ∉ placeholder) :
    c ∉ orPlaceholder value placeholder := by
  unfold orPlaceholder
  split
  · exact hplaceholder
  · exact hvalue

theorem not_mem_markup (hforeign : Foreign c) (hvalue : c ∉ value) : c ∉ command.markup value := by
  have hempty : c ∉ command.markup [] := hforeign.2 command (by cases command <;> decide)
  cases command with
  | horizontalRule => exact hempty
  | heading | blockquote | orderedList | unorderedList =>
      rw [markup, List.mem_append, not_or] at hempty ⊢
      exact ⟨hempty.1, hvalue⟩
  | bold | italic | code | link | image =>
      rw [markup, List.mem_append, List.mem_append, not_or, not_or] at hempty ⊢
      exact ⟨⟨hempty.1.1, not_mem_orPlaceholder hvalue hempty.1.2⟩, hempty.2⟩

theorem newline_not_mem_markup (hvalue : '\n' ∉ value) : '\n' ∉ command.markup value :=
  not_mem_markup foreign_newline hvalue

theorem not_mem_markupLine? {line : Text} (hforeign : Foreign c) (hline : c ∉ line)
    (counter : Nat) : c ∉ (command.markupLine? line counter).getD line := by
  have hnumber : c ∉ Text.ofNat counter := by
    intro hmem
    have hdigit := Nat.isDigit_of_mem_toDigits (by decide) (by decide) hmem
    rw [hforeign.1] at hdigit
    contradiction
  cases command with
  | blockquote =>
      have hfront : c ∉ "> ".toList := hforeign.2 blockquote (by decide)
      simp only [markupLine?, Option.getD_some, List.mem_append, not_or]
      exact ⟨hfront, hline⟩
  | orderedList =>
      have hfront : c ∉ '1' :: ". ".toList := hforeign.2 orderedList (by decide)
      simp only [markupLine?, Option.getD_some, List.mem_append, not_or]
      exact ⟨⟨hnumber, fun hmem => hfront (List.mem_cons_of_mem _ hmem)⟩, hline⟩
  | unorderedList =>
      have hfront : c ∉ "- ".toList := hforeign.2 unorderedList (by decide)
      simp only [markupLine?, Option.getD_some, List.mem_append, not_or]
      exact ⟨hfront, hline⟩
  | heading | bold | italic | code | horizontalRule | link | image => exact hline

theorem newline_not_mem_markupLine? {line : Text} (hline : '\n' ∉ line) (counter : Nat) :
    '\n' ∉ (command.markupLine? line counter).getD line :=
  not_mem_markupLine? foreign_newline hline counter

end Markup

/-- What a command puts in the place of what, for a selection within one line (`false`) or over
several (`true`). -/
inductive Writes (command : Command) : Bool → List Text → List Text → Prop
  | rule (hrule : command = horizontalRule) (text : Text) :
      Writes command false [text] [command.markup text]
  | range (hrule : command ≠ horizontalRule) {value : Text} (hvalue : value ≠ [])
      (front behind : Text) :
      Writes command false [front ++ value ++ behind] [front ++ command.markup value ++ behind]
  | caret : Writes command false [] [command.markup []]
  | blank : Writes command false [[]] [command.markup []]
  | block {texts : List Text} (htexts : texts ≠ []) :
      Writes command true texts (command.blockTexts texts)

section Blocks

variable {command : Command} {texts : List Text}

theorem flatMap_sublist_mapIdx {rewrite : Nat → Text → Text}
    (hrewrite : ∀ place (text : Text), text.Sublist (rewrite place text)) :
    (texts.flatMap fun line => '\n' :: line).Sublist
      ((texts.mapIdx rewrite).flatMap fun line => '\n' :: line) := by
  induction texts generalizing rewrite with
  | nil => exact List.nil_sublist _
  | cons text texts ih =>
      rw [List.mapIdx_cons, List.flatMap_cons, List.flatMap_cons]
      exact ((hrewrite 0 text).cons_cons '\n').append (ih fun place => hrewrite (place + 1))

theorem flatMap_sublist_blockTexts (command : Command) (texts : List Text) :
    (texts.flatMap fun line => '\n' :: line).Sublist
      ((command.blockTexts texts).flatMap fun line => '\n' :: line) := by
  have hrewrite : (texts.flatMap fun line => '\n' :: line).Sublist
      ((command.rewriteTexts texts).flatMap fun line => '\n' :: line) :=
    flatMap_sublist_mapIdx fun place text => command.sublist_markupLine? text (place + 1)
  unfold blockTexts
  split
  · rw [List.flatMap_append, List.flatMap_cons]
    exact sublist_between hrewrite
  · exact hrewrite

theorem rewriteTexts_ne_nil (htexts : texts ≠ []) : command.rewriteTexts texts ≠ [] := by
  simpa [rewriteTexts] using htexts

theorem forall_mem_rewriteTexts {holds : Text → Prop}
    (htexts : ∀ text ∈ texts, ∀ counter, holds ((command.markupLine? text counter).getD text)) :
    ∀ text ∈ command.rewriteTexts texts, holds text := by
  intro text htext
  obtain ⟨place, hplace, rfl⟩ := List.mem_mapIdx.mp htext
  exact htexts _ (List.getElem_mem hplace) _

theorem newline_not_mem_rewriteTexts (htexts : ∀ text ∈ texts, '\n' ∉ text) :
    ∀ text ∈ command.rewriteTexts texts, '\n' ∉ text :=
  forall_mem_rewriteTexts fun text htext => newline_not_mem_markupLine? (htexts text htext)

/-- What holds of the empty line and of every rewritten line holds of all lines of a block. -/
theorem forall_mem_blockTexts {holds : Text → Prop} (hblank : holds [])
    (htexts : ∀ text ∈ texts, ∀ counter, holds ((command.markupLine? text counter).getD text)) :
    ∀ text ∈ command.blockTexts texts, holds text := by
  have hrewrite := forall_mem_rewriteTexts htexts
  unfold blockTexts
  split
  · simp only [List.cons_append, List.forall_mem_cons, List.forall_mem_append]
    exact ⟨hblank, hrewrite, hblank, List.forall_mem_nil _⟩
  · exact hrewrite

theorem blockTexts_ne_nil (htexts : texts ≠ []) : command.blockTexts texts ≠ [] := by
  unfold blockTexts
  split
  · simp
  · exact rewriteTexts_ne_nil htexts

end Blocks

namespace Writes

variable {command : Command} {multiline : Bool} {removed written : List Text}

theorem written_ne_nil (hwrites : command.Writes multiline removed written) : written ≠ [] := by
  cases hwrites with
  | rule | range | caret | blank => exact List.cons_ne_nil _ _
  | block htexts => exact blockTexts_ne_nil htexts

theorem eq_blockTexts (hwrites : command.Writes true removed written) :
    removed ≠ [] ∧ written = command.blockTexts removed := by
  cases hwrites with
  | block htexts => exact ⟨htexts, rfl⟩

theorem not_mem {c : Char} (hwrites : command.Writes multiline removed written)
    (hforeign : Foreign c) (hremoved : ∀ text ∈ removed, c ∉ text) :
    ∀ text ∈ written, c ∉ text := by
  have hempty : c ∉ command.markup [] := not_mem_markup hforeign List.not_mem_nil
  cases hwrites with
  | rule hrule text =>
      rw [List.forall_mem_singleton] at hremoved ⊢
      exact not_mem_markup hforeign hremoved
  | range hrule hvalue front behind =>
      rw [List.forall_mem_singleton, List.mem_append, List.mem_append, not_or, not_or] at hremoved ⊢
      exact ⟨⟨hremoved.1.1, not_mem_markup hforeign hremoved.1.2⟩, hremoved.2⟩
  | caret | blank => exact List.forall_mem_singleton.mpr hempty
  | block htexts =>
      exact forall_mem_blockTexts List.not_mem_nil fun text htext =>
        not_mem_markupLine? hforeign (hremoved text htext)

/-- Only a rule in the place of a line drops text. -/
theorem flatMap_sublist (hwrites : command.Writes multiline removed written)
    (hrule : command = horizontalRule → multiline = true) :
    (removed.flatMap fun line => '\n' :: line).Sublist
      (written.flatMap fun line => '\n' :: line) := by
  cases hwrites with
  | rule hcommand text => exact absurd (hrule hcommand) Bool.false_ne_true
  | @range hcommand value hvalue front behind =>
      rw [List.flatMap_singleton, List.flatMap_singleton]
      have hmarkup := (List.Sublist.refl front).append (sublist_markup hcommand value)
      exact (hmarkup.append (List.Sublist.refl behind)).cons_cons '\n'
  | caret => exact List.nil_sublist _
  | blank => exact (List.nil_sublist _).cons_cons '\n'
  | block htexts => exact flatMap_sublist_blockTexts command _

end Writes

end Command

namespace Document

section Format

variable {doc next : Document} {selection : Selection} {command : Command} {patch : Patch}

theorem segment_ne_nil {texts : List Text} {first last : Nat} (hle : first ≤ last)
    (hlast : last < texts.length) : (texts.take (last + 1)).drop first ≠ [] := by
  have hlength := @length_segment _ texts first last hlast
  intro hnil
  rw [hnil, List.length_nil] at hlength
  omega

theorem take_append_segment (texts : List Text) {first last : Nat} (hle : first ≤ last) :
    texts.take first ++ (texts.take (last + 1)).drop first = texts.take (last + 1) := by
  have htake : texts.take first = (texts.take (last + 1)).take first := by
    rw [List.take_take, Nat.min_eq_left (by omega)]
  rw [htake, List.take_append_drop]

/-- Over several lines a command makes an edit in the place of the selected lines. -/
theorem exists_edit_of_isMultiline (hdoc : doc.WellFormed) (hcurrent : selection.Current doc)
    (hmultiline : selection.isMultiline = true) :
    ∃ edit patch next, doc.format command selection = some (patch, next) ∧
      doc.Edited edit patch next ∧ command.Writes true edit.removed edit.written ∧
        edit.above.length = selection.startLine ∧
          edit.removed.length = selection.endLine + 1 - selection.startLine := by
  have hle := hcurrent.startLine_le
  have hlast : selection.endLine < doc.texts.length := by
    rw [length_texts]
    exact hcurrent.endLine_lt
  have habove : (doc.texts.take selection.startLine).length = selection.startLine :=
    List.length_take_of_le (Nat.le_of_lt (Nat.lt_of_le_of_lt hle hlast))
  have hformat := @format_of_isMultiline doc.texts doc.version command selection hle hlast hmultiline
  rw [← hdoc.eq_ofTexts] at hformat
  obtain ⟨block, hblock⟩ : ∃ block,
      (doc.texts.take (selection.endLine + 1)).drop selection.startLine = block := ⟨_, rfl⟩
  have hwrites : command.Writes true block (command.blockTexts block) :=
    .block (hblock ▸ segment_ne_nil hle hlast)
  rw [hblock] at hformat
  refine ⟨⟨doc.texts.take selection.startLine, block, command.blockTexts block,
    doc.texts.drop (selection.endLine + 1)⟩, _, _, hformat, ?_, hwrites, habove,
    hblock ▸ length_segment hlast⟩
  constructor
  case texts_eq =>
    rw [Edit.before, ← hblock, take_append_segment _ hle, List.take_append_drop]
  case next_eq => rfl
  case patch_eq => simp only [Edit.range, habove]
  case written_ne_nil => exact hwrites.written_ne_nil
  case newline_not_mem =>
    apply hwrites.not_mem Command.foreign_newline
    intro text htext
    rw [← hblock] at htext
    exact hdoc.newline_not_mem text (List.mem_of_mem_take (List.mem_of_mem_drop htext))

theorem edited_line {index : Nat} {text written : Text}
    (htext : doc.texts[index]? = some text) (hwritten : '\n' ∉ written) :
    doc.Edited ⟨doc.texts.take index, [text], [written], doc.texts.drop (index + 1)⟩
      ⟨⟨index, index + 1⟩, doc.version + 1⟩
      (ofTexts (doc.texts.take index ++ [written] ++ doc.texts.drop (index + 1))
        (doc.version + 1)) where
  texts_eq := by
    obtain ⟨hlt, hget⟩ := List.getElem?_eq_some_iff.mp htext
    rw [Edit.before, ← hget, ← List.take_succ_eq_append_getElem hlt, List.take_append_drop]
  next_eq := rfl
  patch_eq := by
    obtain ⟨hlt, -⟩ := List.getElem?_eq_some_iff.mp htext
    have habove := List.length_take_of_le (Nat.le_of_lt hlt)
    simp only [Edit.range, habove, List.length_singleton]
  written_ne_nil := List.cons_ne_nil _ _
  newline_not_mem := List.forall_mem_singleton.mpr hwritten

theorem edited_below {index : Nat} {text written : Text}
    (htext : doc.texts[index]? = some text) (hwritten : '\n' ∉ written) :
    doc.Edited ⟨doc.texts.take (index + 1), [], [written], doc.texts.drop (index + 1)⟩
      ⟨⟨index + 1, index + 2⟩, doc.version + 1⟩
      (ofTexts (doc.texts.take index ++ [text, written] ++ doc.texts.drop (index + 1))
        (doc.version + 1)) where
  texts_eq := by simp [Edit.before]
  next_eq := by
    obtain ⟨hlt, hget⟩ := List.getElem?_eq_some_iff.mp htext
    rw [Edit.after, List.take_succ_eq_append_getElem hlt, hget]
    simp
  patch_eq := by
    obtain ⟨hlt, -⟩ := List.getElem?_eq_some_iff.mp htext
    have habove := List.length_take_of_le (Nat.succ_le_of_lt hlt)
    simp only [Edit.range, habove, List.length_singleton]
  written_ne_nil := List.cons_ne_nil _ _
  newline_not_mem := List.forall_mem_singleton.mpr hwritten

/-- Within one line a command either writes in the place of the line or below it. -/
theorem lineTexts_cases (command : Command) {text : Text} {start stop : Nat} (index : Nat)
    (hle : start ≤ stop) (hstop : stop ≤ text.length) (hblank : stop = 0 → text = []) :
    (∃ written, command.Writes false [text] [written] ∧
      command.lineTexts text start stop = [written] ∧
        command.writtenLine index start stop = index) ∨
    (command.Writes false [] [command.markup []] ∧
      command.lineTexts text start stop = [text, command.markup []] ∧
        command.writtenLine index start stop = index + 1) := by
  by_cases hrule : command = .horizontalRule
  · left
    refine ⟨_, .rule hrule text, ?_, ?_⟩
    · simp [Command.lineTexts, Command.markup, hrule]
    · simp [Command.writtenLine, hrule]
  · by_cases hrange : start < stop
    · left
      have hwrites := Command.Writes.range hrule (Text.span_ne_nil hrange hstop)
        (text.take start) (text.drop stop)
      rw [Text.take_append_span hle] at hwrites
      have hplace : ¬ stop ≤ start := Nat.not_le.mpr hrange
      refine ⟨_, hwrites, ?_, ?_⟩
      · simp [Command.lineTexts, hrule, hrange]
      · simp [Command.writtenLine, hplace]
    · have hplace : stop ≤ start := Nat.not_lt.mp hrange
      by_cases hcaret : 0 < stop
      · right
        refine ⟨.caret, ?_, ?_⟩
        · simp [Command.lineTexts, hrule, hrange, hcaret]
        · simp [Command.writtenLine, hrule, hplace, hcaret]
      · left
        obtain rfl : text = [] := hblank (by omega)
        refine ⟨_, .blank, ?_, ?_⟩
        · simp [Command.lineTexts, hrule, hrange, hcaret]
        · simp [Command.writtenLine, hcaret]

/-- A current selection that is not over several lines is within one. -/
theorem exists_selected_text (hcurrent : selection.Current doc)
    (hsingle : selection.isMultiline = false) :
    selection.endLine < doc.texts.length ∧
      ∃ text, doc.texts[selection.startLine]? = some text ∧
        selection.endOffset ≤ text.length ∧ (selection.endOffset = 0 → text = []) := by
  have hsame : selection.startLine = selection.endLine := by
    have hle := hcurrent.startLine_le
    have hmultiline := hcurrent.isMultiline_iff
    rw [hsingle] at hmultiline
    have hlt : ¬ selection.startLine < selection.endLine := by simpa using hmultiline
    omega
  obtain ⟨line, hline⟩ := exists_line? (hsame ▸ hcurrent.endLine_lt)
  obtain ⟨hstop, hblank, -⟩ := hcurrent.of_line line hsame hline
  refine ⟨?_, line.text, ?_, hstop, hblank⟩
  · rw [length_texts]
    exact hcurrent.endLine_lt
  · rw [texts, List.getElem?_map]
    exact congrArg (Option.map Line.text) hline

theorem exists_edit_of_not_isMultiline (hdoc : doc.WellFormed) (hcurrent : selection.Current doc)
    (hsingle : selection.isMultiline = false) :
    ∃ edit patch next, doc.format command selection = some (patch, next) ∧
      doc.Edited edit patch next ∧ command.Writes false edit.removed edit.written := by
  obtain ⟨hlast, text, htext, hstop, hblank⟩ := exists_selected_text hcurrent hsingle
  have hnewline : '\n' ∉ text := hdoc.newline_not_mem text (List.mem_of_getElem? htext)
  have hformat := @format_of_not_isMultiline doc.texts doc.version command selection text
    htext hlast hsingle
  rw [← hdoc.eq_ofTexts] at hformat
  rcases lineTexts_cases command selection.startLine hcurrent.startOffset_le hstop hblank with
    ⟨written, hwrites, htexts, hplace⟩ | ⟨hwrites, htexts, hplace⟩
  · have hwritten := hwrites.not_mem Command.foreign_newline
      (List.forall_mem_singleton.mpr hnewline)
    rw [List.forall_mem_singleton] at hwritten
    rw [htexts, hplace] at hformat
    exact ⟨_, _, _, hformat, edited_line htext hwritten, hwrites⟩
  · have hwritten := hwrites.not_mem Command.foreign_newline (List.forall_mem_nil _)
    rw [List.forall_mem_singleton] at hwritten
    rw [htexts, hplace] at hformat
    exact ⟨_, _, _, hformat, edited_below htext hwritten, hwrites⟩

/-- **Commands make edits.** What a command does to a document with a current selection is one edit,
of a shape that the command may write. -/
theorem exists_edit_of_format (hdoc : doc.WellFormed) (hcurrent : selection.Current doc)
    (hformat : doc.format command selection = some (patch, next)) :
    ∃ edit, doc.Edited edit patch next ∧
      command.Writes selection.isMultiline edit.removed edit.written := by
  have hexists : ∃ edit patch next, doc.format command selection = some (patch, next) ∧
      doc.Edited edit patch next ∧
        command.Writes selection.isMultiline edit.removed edit.written := by
    cases hmultiline : selection.isMultiline with
    | true =>
        obtain ⟨edit, patch, next, hformat, hedited, hwrites, -⟩ :=
          exists_edit_of_isMultiline hdoc hcurrent hmultiline
        exact ⟨edit, patch, next, hformat, hedited, hwrites⟩
    | false => exact exists_edit_of_not_isMultiline hdoc hcurrent hmultiline
  obtain ⟨edit, made, after, hmade, hedited, hwrites⟩ := hexists
  rw [hmade, Option.some.injEq, Prod.mk.injEq] at hformat
  obtain ⟨rfl, rfl⟩ := hformat
  exact ⟨edit, hedited, hwrites⟩

end Format

end Document

end MarkupEditor
