import MarkupEditor.Proofs.Document.CommandEdits
import MarkupEditor.Proofs.Document.Endpoints

/-!
# Commands on separate lines commute

A command reads the lines that its selection names and writes in their place, and the lines that it
adds move those below further down. So of two commands on separate lines, the lower one may come
first, with both selections as they are. Or the upper one comes first, and the lower endpoints are
selected again as many lines further down as it has added. Either way gives the same document.
-/

namespace MarkupEditor

/-- The same offset, so many lines further down. -/
def Position.down (position : Position) (count : Nat) : Position :=
  { position with line := position.line + count }

namespace Command

/-- The texts that take the place of those of the selected lines, be it one or several. -/
def rangeTexts (command : Command) (start stop : Nat) : List Text → List Text
  | [text] => command.lineTexts text start stop
  | texts => command.blockTexts texts

variable {command : Command} {start stop : Nat} {texts : List Text}

theorem rangeTexts_of_lines (hlines : 1 < texts.length) :
    command.rangeTexts start stop texts = command.blockTexts texts := by
  match texts, hlines with
  | [], _ => rfl
  | _ :: _ :: _, _ => rfl

/-- No command takes a line away. -/
theorem length_le_rangeTexts (command : Command) (start stop : Nat) (texts : List Text) :
    texts.length ≤ (command.rangeTexts start stop texts).length := by
  unfold rangeTexts
  split
  · unfold lineTexts
    repeat' split
    all_goals simp
  · unfold blockTexts
    split
    · simp only [List.cons_append, List.length_cons, List.length_append, length_rewriteTexts]
      omega
    · exact Nat.le_of_eq (length_rewriteTexts command _).symm

end Command

namespace Selection

/-- The selection is of the lines with the texts `block`, which follow on those with the texts
`above`. -/
structure Spans (selection : Selection) (above block : List Text) : Prop where
  startLine_eq : selection.startLine = above.length
  endLine_eq : selection.endLine + 1 = above.length + block.length
  isMultiline_iff : selection.isMultiline = true ↔ 1 < block.length
  block_ne_nil : block ≠ []

theorem Current.exists_spans {selection : Selection} {doc : Document}
    (hcurrent : selection.Current doc) :
    ∃ above block below, doc.texts = above ++ block ++ below ∧ selection.Spans above block := by
  have hle := hcurrent.startLine_le
  have hlast : selection.endLine < doc.texts.length := by
    rw [Document.length_texts]
    exact hcurrent.endLine_lt
  have habove : (doc.texts.take selection.startLine).length = selection.startLine :=
    List.length_take_of_le (by omega)
  have hblock := @Document.length_segment _ doc.texts selection.startLine _ hlast
  refine ⟨doc.texts.take selection.startLine,
    (doc.texts.take (selection.endLine + 1)).drop selection.startLine,
    doc.texts.drop (selection.endLine + 1), ?_, ?_⟩
  · rw [Document.take_append_segment _ hle, List.take_append_drop]
  · constructor
    case startLine_eq => exact habove.symm
    case endLine_eq => omega
    case isMultiline_iff =>
      rw [hcurrent.isMultiline_iff, hblock]
      omega
    case block_ne_nil =>
      intro hnil
      rw [hnil, List.length_nil] at hblock
      omega

end Selection

namespace Document

section Parts

variable {selection : Selection} {above block below : List Text}

/-- A command writes in the place of the selected lines, and counts one change. -/
theorem exists_format_of_spans (command : Command) (hspans : selection.Spans above block)
    (below : List Text) (version : Nat) :
    ∃ patch, (ofTexts (above ++ block ++ below) version).format command selection = some (patch,
      ofTexts (above ++ command.rangeTexts selection.startOffset selection.endOffset block ++ below)
        (version + 1)) := by
  obtain ⟨hfirst, hlast, hmultiline, hne⟩ := hspans
  have hpositive : 0 < block.length := List.length_pos_iff.mpr hne
  have hend : selection.endLine < (above ++ block ++ below).length := by
    simp only [List.length_append]
    omega
  have htake : (above ++ block ++ below).take selection.startLine = above := by
    rw [hfirst, List.append_assoc]
    exact List.take_left
  have htakeLast : (above ++ block ++ below).take (selection.endLine + 1) = above ++ block :=
    List.take_left' (by rw [List.length_append, hlast])
  have hdropLast : (above ++ block ++ below).drop (selection.endLine + 1) = below :=
    List.drop_left' (by rw [List.length_append, hlast])
  by_cases hseveral : 1 < block.length
  · have hformat := @format_of_isMultiline (above ++ block ++ below) version command selection
      (by omega) hend (hmultiline.mpr hseveral)
    rw [htake, htakeLast, hdropLast, hfirst, List.drop_left] at hformat
    rw [Command.rangeTexts_of_lines hseveral]
    exact ⟨_, hformat⟩
  · obtain ⟨text, rfl⟩ := List.length_eq_one_iff.mp (show block.length = 1 by omega)
    have hsingle : selection.isMultiline = false := by simpa using hmultiline
    have hsame : selection.startLine = selection.endLine := by
      rw [List.length_singleton] at hlast
      omega
    have htext : (above ++ [text] ++ below)[selection.startLine]? = some text := by
      simp [hfirst]
    have hformat := @format_of_not_isMultiline (above ++ [text] ++ below) version command selection
      text htext hend hsingle
    rw [htake, hsame, hdropLast] at hformat
    exact ⟨_, hformat⟩

end Parts

section Down

variable {selection : Selection} {above front block below : List Text} {anchor focus : Position}
  {version other count : Nat}

theorem getElem?_down (hfront : front.length = above.length + count) {i : Nat}
    (hi : above.length ≤ i) :
    (front ++ block ++ below)[i + count]? = (above ++ block ++ below)[i]? := by
  have hplace : i + count - front.length = i - above.length := by omega
  rw [List.append_assoc, List.append_assoc, List.getElem?_append_right (by omega),
    List.getElem?_append_right hi, hplace]

theorem line?_down (version : Nat) (hfront : front.length = above.length + count) {i : Nat}
    (hi : above.length ≤ i) {line : Line}
    (hline : (ofTexts (front ++ block ++ below) other).line? (i + count) = some line) :
    (ofTexts (above ++ block ++ below) version).line? i = some ⟨i, line.text⟩ := by
  rw [line?_ofTexts, getElem?_down hfront hi] at hline
  obtain ⟨text, htext, rfl⟩ := Option.map_eq_some_iff.mp hline
  rw [line?_ofTexts, htext, Option.map_some]

/-- Lines that have moved down hold the same texts as before. -/
theorem map_text_down {moved : Selection}
    (hbetween : (ofTexts (above ++ block ++ below) version).Between anchor focus selection)
    (hbelow : (ofTexts (front ++ block ++ below) other).Between (anchor.down count)
      (focus.down count) moved)
    (habove : above.length ≤ selection.startLine) (hfront : front.length = above.length + count) :
    moved.lines.map Line.text = selection.lines.map Line.text := by
  have hfirst : moved.startLine = selection.startLine + count := by
    rw [hbelow.startLine_eq, hbetween.startLine_eq]
    exact Nat.add_min_add_right _ _ _
  have hlast : moved.endLine = selection.endLine + count := by
    rw [hbelow.endLine_eq, hbetween.endLine_eq]
    exact Nat.add_max_add_right _ _ _
  have hlength : moved.lines.length = selection.lines.length := by
    rw [hbelow.length_lines, hbetween.length_lines]
    omega
  apply List.ext_getElem?
  intro i
  by_cases hi : i < selection.lines.length
  · have hplace : moved.startLine + i = selection.startLine + i + count := by omega
    rw [hbelow.getElem?_texts (hlength ▸ hi), hbetween.getElem?_texts hi, texts_ofTexts,
      texts_ofTexts, hplace, getElem?_down hfront (by omega)]
  · rw [List.getElem?_eq_none, List.getElem?_eq_none]
    · simpa using hi
    · simpa [hlength] using hi

/-- What is selected of lines that have moved down is the same as before. -/
theorem rawText_down {moved : Selection}
    (hselection : (ofTexts (above ++ block ++ below) version).select anchor focus = some selection)
    (hmoved : (ofTexts (front ++ block ++ below) other).select (anchor.down count)
      (focus.down count) = some moved)
    (habove : above.length ≤ selection.startLine) (hfront : front.length = above.length + count) :
    moved.startOffset = selection.startOffset ∧ moved.endOffset = selection.endOffset ∧
      moved.rawText = selection.rawText := by
  have hbetween := between_of_select hselection
  have hbelow := between_of_select hmoved
  have hfirst := hbetween.startLine_eq
  by_cases hsame : anchor.line = focus.line
  · obtain ⟨line, hline, hstart, hstop, hraw, -⟩ := hbetween.of_line hsame
    obtain ⟨found, hfound, hstart', hstop', hraw', -⟩ :=
      hbelow.of_line (congrArg (· + count) hsame)
    have hback := line?_down version hfront (by omega) hfound
    obtain rfl : line = ⟨anchor.line, found.text⟩ := Option.some.inj (hline.symm.trans hback)
    have hoffsets : moved.startOffset = selection.startOffset ∧
        moved.endOffset = selection.endOffset :=
      ⟨hstart'.trans hstart.symm, hstop'.trans hstop.symm⟩
    refine ⟨hoffsets.1, hoffsets.2, ?_⟩
    rw [hraw', hraw, hoffsets.1, hoffsets.2]
  · obtain ⟨hstart, hstop, hraw⟩ := hbetween.of_lines hsame
    obtain ⟨hstart', hstop', hraw'⟩ :=
      hbelow.of_lines fun heq => hsame (Nat.add_right_cancel heq)
    have htexts := map_text_down hbetween hbelow habove hfront
    exact ⟨hstart'.trans hstart.symm, hstop'.trans hstop.symm, by rw [hraw', hraw, htexts]⟩

/-- Lines that have moved down are selected where they are now. -/
theorem exists_select_down (other : Nat)
    (hselection : (ofTexts (above ++ block ++ below) version).select anchor focus = some selection)
    (hspans : selection.Spans above block) (hfront : front.length = above.length + count) :
    ∃ moved, (ofTexts (front ++ block ++ below) other).select (anchor.down count)
        (focus.down count) = some moved ∧
      moved.startOffset = selection.startOffset ∧ moved.endOffset = selection.endOffset ∧
        moved.rawText = selection.rawText ∧ moved.Spans front block := by
  have hbetween := between_of_select hselection
  have hplaces : min anchor.line focus.line = above.length ∧
      max anchor.line focus.line + 1 = above.length + block.length := by
    rw [← hbetween.startLine_eq, ← hbetween.endLine_eq]
    exact ⟨hspans.startLine_eq, hspans.endLine_eq⟩
  cases hmoved : (ofTexts (front ++ block ++ below) other).select (anchor.down count)
      (focus.down count) with
  | none =>
      rcases select_eq_none_iff.mp hmoved with
        hcount | ⟨hsame, hanchor, hfocus, line, hline, htext⟩
      · simp only [lineCount_ofTexts, List.length_append, Position.down] at hcount
        omega
      · have hcaret := line?_down version hfront (by omega) hline
        have hnone := select_eq_none_iff.mpr
          (Or.inr ⟨Nat.add_right_cancel hsame, hanchor, hfocus, _, hcaret, htext⟩)
        rw [hselection] at hnone
        contradiction
  | some moved =>
      have habove : above.length ≤ selection.startLine := Nat.le_of_eq hspans.startLine_eq.symm
      obtain ⟨hstart, hstop, hraw⟩ := rawText_down hselection hmoved habove hfront
      have hbelow := between_of_select hmoved
      refine ⟨moved, rfl, hstart, hstop, hraw, ?_⟩
      constructor
      case startLine_eq =>
        rw [hbelow.startLine_eq]
        simp only [Position.down]
        omega
      case endLine_eq =>
        rw [hbelow.endLine_eq]
        simp only [Position.down]
        omega
      case isMultiline_iff =>
        rw [isMultiline_iff_line_ne hmoved, ← hspans.isMultiline_iff,
          isMultiline_iff_line_ne hselection]
        simp only [Position.down]
        omega
      case block_ne_nil => exact hspans.block_ne_nil

end Down

section Commutation

variable {doc : Document} {anchor focus anchorBelow focusBelow : Position}
  {upper lower : Selection}

/-- The lines of two selections, one further up than the other, are parts of the document. -/
theorem exists_spans_of_lt (hupper : upper.Current doc) (hlower : lower.Current doc)
    (hlt : upper.endLine < lower.startLine) :
    ∃ above block middle blockBelow below,
      doc.texts = above ++ block ++ middle ++ blockBelow ++ below ∧
        upper.Spans above block ∧ lower.Spans (above ++ block ++ middle) blockBelow := by
  obtain ⟨above, block, rest, htexts, hspans⟩ := hupper.exists_spans
  obtain ⟨front, blockBelow, below, htexts', hspans'⟩ := hlower.exists_spans
  have hlength : (above ++ block).length ≤ front.length := by
    rw [List.length_append, ← hspans.endLine_eq, ← hspans'.startLine_eq]
    exact hlt
  have hupperFront : above ++ block <+: doc.texts := ⟨rest, htexts.symm⟩
  have hlowerFront : front <+: doc.texts :=
    ⟨blockBelow ++ below, by rw [htexts', List.append_assoc]⟩
  obtain ⟨middle, rfl⟩ := List.prefix_of_prefix_length_le hupperFront hlowerFront hlength
  exact ⟨above, block, middle, blockBelow, below, htexts', hspans, hspans'⟩

/-- **Commands on separate lines commute.** A command on lower lines and then one on upper lines, both
with the selections made at first, give the same document as the upper command first and then the
lower one, with its endpoints moved down by the lines that the upper one has added. These endpoints
are accepted, and select the same text with the same offsets. -/
theorem format_commutes (hdoc : doc.WellFormed) (hupper : doc.select anchor focus = some upper)
    (hlower : doc.select anchorBelow focusBelow = some lower)
    (hlt : upper.endLine < lower.startLine) (command commandBelow : Command) :
    ∃ patch patchBelow both,
      (∃ lowered, doc.format commandBelow lower = some (patchBelow, lowered) ∧
        lowered.format command upper = some (patch, both)) ∧
      ∃ patchFirst raised added moved patchLast,
        doc.format command upper = some (patchFirst, raised) ∧
        raised.lineCount = doc.lineCount + added ∧
        raised.select (anchorBelow.down added) (focusBelow.down added) = some moved ∧
        moved.startOffset = lower.startOffset ∧ moved.endOffset = lower.endOffset ∧
        moved.rawText = lower.rawText ∧
        raised.format commandBelow moved = some (patchLast, both) := by
  obtain ⟨above, block, middle, blockBelow, below, htexts, hspans, hspansBelow⟩ :=
    exists_spans_of_lt (current_of_select hupper) (current_of_select hlower) hlt
  obtain ⟨version, rfl⟩ : ∃ version,
      doc = ofTexts (above ++ block ++ middle ++ blockBelow ++ below) version :=
    ⟨doc.version, htexts ▸ hdoc.eq_ofTexts⟩
  obtain ⟨written, hwritten⟩ : ∃ written,
      command.rangeTexts upper.startOffset upper.endOffset block = written := ⟨_, rfl⟩
  obtain ⟨writtenBelow, hwrittenBelow⟩ : ∃ writtenBelow,
      commandBelow.rangeTexts lower.startOffset lower.endOffset blockBelow = writtenBelow :=
    ⟨_, rfl⟩
  -- from below upwards, where the upper lines have not moved
  obtain ⟨patchBelow, hlowered⟩ := exists_format_of_spans commandBelow hspansBelow below version
  obtain ⟨patch, hboth⟩ := exists_format_of_spans command hspans
    (middle ++ writtenBelow ++ below) (version + 1)
  -- from above downwards, where the lower lines have moved by what was added
  obtain ⟨patchFirst, hraised⟩ := exists_format_of_spans command hspans
    (middle ++ blockBelow ++ below) version
  obtain ⟨added, hadded⟩ : ∃ added, written.length = block.length + added :=
    Nat.exists_eq_add_of_le (hwritten ▸ command.length_le_rangeTexts _ _ block)
  have hfront : (above ++ written ++ middle).length = (above ++ block ++ middle).length + added := by
    simp only [List.length_append]
    omega
  obtain ⟨moved, hmoved, hstart, hstop, hraw, hspansMoved⟩ :=
    exists_select_down (version + 1) hlower hspansBelow hfront
  obtain ⟨patchLast, hlast⟩ := exists_format_of_spans commandBelow hspansMoved below (version + 1)
  rw [hstart, hstop] at hlast
  rw [hwrittenBelow] at hlowered hlast
  rw [hwritten] at hboth hraised
  simp only [List.append_assoc] at hlowered hboth hraised hmoved hlast ⊢
  refine ⟨patch, patchBelow, _, ⟨_, hlowered, hboth⟩, patchFirst, _, added, moved, patchLast, hraised,
    ?_, hmoved, hstart, hstop, hraw, hlast⟩
  simp only [lineCount_ofTexts, List.length_append]
  omega

/-- A list right above a caret. The image below the caret ends up in one place. -/
theorem format_commutes_adjacent :
    let doc := ofText "a\nb\ncd".toList
    let upper : Selection := ⟨0, 1, 0, 1, [⟨0, "a".toList⟩, ⟨1, "b".toList⟩], "a\nb".toList⟩
    let lower : Selection := ⟨2, 2, 1, 1, [⟨2, "cd".toList⟩], []⟩
    doc.select ⟨1, 0⟩ ⟨0, 1⟩ = some upper ∧ doc.select ⟨2, 1⟩ ⟨2, 1⟩ = some lower ∧
    ∃ lowered raised moved both,
      (doc.format .image lower).map Prod.snd = some lowered ∧
      (lowered.format .unorderedList upper).map Prod.snd = some both ∧
      (doc.format .unorderedList upper).map Prod.snd = some raised ∧
      raised.select ⟨4, 1⟩ ⟨4, 1⟩ = some moved ∧
      (raised.format .image moved).map Prod.snd = some both ∧
      both.texts = ["".toList, "- a".toList, "- b".toList, "".toList, "cd".toList,
        "![alt text](image.jpg)".toList] := by
  intro doc upper lower
  have hupper : doc.select ⟨1, 0⟩ ⟨0, 1⟩ = some upper := by decide
  have hlower : doc.select ⟨2, 1⟩ ⟨2, 1⟩ = some lower := by decide
  obtain ⟨_, _, both, ⟨lowered, hlowered, hboth⟩, _, raised, added, moved, _, hraised, hadded,
    hmoved, -, -, -, hlast⟩ :=
    format_commutes (wellFormed_ofText _) hupper hlower (by decide) .unorderedList .image
  have hlines : raised = ofTexts ["".toList, "- a".toList, "- b".toList, "".toList,
      "cd".toList] 1 := by
    have hvalue : (doc.format .unorderedList upper).map Prod.snd = some (ofTexts ["".toList,
        "- a".toList, "- b".toList, "".toList, "cd".toList] 1) := by decide
    rw [hraised] at hvalue
    exact Option.some.inj hvalue
  obtain rfl : added = 2 := by
    have hcount : doc.lineCount = 3 := by decide
    rw [hcount, hlines, lineCount_ofTexts] at hadded
    exact (Nat.add_left_cancel hadded).symm
  refine ⟨hupper, hlower, lowered, raised, moved, both, ?_, ?_, ?_, hmoved, ?_, ?_⟩
  · rw [hlowered, Option.map_some]
  · rw [hboth, Option.map_some]
  · rw [hraised, Option.map_some]
  · rw [hlast, Option.map_some]
  · have hvalue : (doc.format .image lower).bind (fun result =>
        (result.2.format .unorderedList upper).map fun result => result.2.texts) =
        some ["".toList, "- a".toList, "- b".toList, "".toList, "cd".toList,
          "![alt text](image.jpg)".toList] := by decide
    rw [hlowered, Option.bind_some, hboth, Option.map_some] at hvalue
    exact Option.some.inj hvalue

end Commutation

end Document

end MarkupEditor
