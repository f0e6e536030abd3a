import MarkupEditor.Proofs.Markup.Flat
import MarkupEditor.Proofs.Markup.Tearing
import MarkupEditor.Proofs.Session.LineInvariants

/-!
# Renderings of formatted texts

Commands write whole markup, but markup around markup is read otherwise than it was written. So a
session that starts without marks may come to lines that an inline step tears, and then its
rendering is not well nested. As long as no inline command goes around marks and no command cuts
into markup, the lines stay flat, and whatever else is done to them the rendering is well nested.
-/

namespace MarkupEditor

open Markup

/-! ### Flat lines from commands -/

section Commands

variable {command : Command} {value placeholder text front : Text} {construct : Construct}
  {start stop : Nat}

theorem Markup.Front.flat (hfront : Front construct front) : Flat inlineMarks front := by
  have hsub : inlineMarks ⊆ '<' :: delimiters := by decide
  exact .of_disjoint hfront.tag_not_mem fun c hc hin => hfront.not_mem c hc (hsub hin)

namespace Command

theorem bare_orPlaceholder (hplaceholder : Bare placeholder) (hvalue : value ≠ [] → Bare value) :
    Bare (orPlaceholder value placeholder) := by
  by_cases hempty : value = []
  · rwa [hempty]
  · rw [orPlaceholder_of_ne_nil hempty]
    exact hvalue hempty

/-- Markup is flat if its value is, and an inline command needs a bare value. -/
theorem flat_markup (hvalue : Flat inlineMarks value)
    (hbare : command.construct ∈ inlineConstructs → value ≠ [] → Bare value) :
    Flat inlineMarks (command.markup value) := by
  by_cases hinline : command.construct ∈ inlineConstructs
  · have hbody {placeholder : Text} (hplaceholder : Bare placeholder) :
        Bare (orPlaceholder value placeholder) := bare_orPlaceholder hplaceholder (hbare hinline)
    have hreference {placeholder target : Text} (hplaceholder : Bare placeholder)
        (htarget : Bare target ∧ ')' ∉ target) :
        Flat inlineMarks
          ('[' :: (orPlaceholder value placeholder ++ ']' :: '(' :: (target ++ [')']))) :=
      .of_part (.reference (hbody hplaceholder) htarget.1 htarget.2)
    cases command with
    | bold | italic | code =>
        rw [markup, List.append_assoc]
        exact .of_part (.enclosed (by decide) (hbody (by decide)))
    | link =>
        have hlink := hreference (by decide : Bare "title".toList)
          (by decide : Bare "https://www.example.com".toList ∧ _)
        simpa [markup] using hlink
    | image =>
        have himage := hreference (by decide : Bare "alt text".toList)
          (by decide : Bare "image.jpg".toList ∧ _)
        have hmark : Flat inlineMarks ['!'] := .of_disjoint (by decide) (by decide)
        simpa [markup] using hmark.append himage
    | heading | blockquote | orderedList | unorderedList | horizontalRule =>
        exact absurd hinline (by decide)
  · obtain ⟨front, hfront, hmarkup⟩ := exists_front_of_markup hinline value
    rw [hmarkup]
    refine hfront.flat.append ?_
    split
    · exact .nil
    · exact hvalue

theorem flat_markupLine? (htext : Flat inlineMarks text) (counter : Nat) :
    Flat inlineMarks ((command.markupLine? text counter).getD text) := by
  cases hwritten : command.markupLine? text counter with
  | none => exact htext
  | some written =>
      obtain ⟨front, hfront, -, rfl⟩ := exists_front_of_markupLine? hwritten
      exact hfront.flat.append htext

/-- The command may be applied to a part of a line: it cuts no markup in the line, and if it is an
inline command, there is no mark in what it encloses. -/
structure Fits (command : Command) (text : Text) (start stop : Nat) : Prop where
  front : Flat inlineMarks (text.take start)
  value : Flat inlineMarks ((text.drop start).take (stop - start))
  behind : Flat inlineMarks (text.drop stop)
  disjoint : command.construct ∈ inlineConstructs →
    ((text.drop start).take (stop - start)).Disjoint inlineMarks

/-- Commands fit every part of a line without marks. -/
theorem Fits.of_disjoint (htag : '<' ∉ text) (hmarks : text.Disjoint inlineMarks) :
    command.Fits text start stop := by
  have hpart {part : Text} (hsub : part ⊆ text) : Flat inlineMarks part :=
    .of_disjoint (fun hin => htag (hsub hin)) (List.disjoint_of_subset_left hsub hmarks)
  have hvalue : (text.drop start).take (stop - start) ⊆ text :=
    List.Subset.trans (List.take_subset _ _) (List.drop_subset _ _)
  exact ⟨hpart (List.take_subset _ _), hpart hvalue, hpart (List.drop_subset _ _),
    fun _ => List.disjoint_of_subset_left hvalue hmarks⟩

theorem flat_lineTexts (htext : Flat inlineMarks text) (hnewline : '\n' ∉ text) (htag : '<' ∉ text)
    (hstop : stop ≤ text.length)
    (hfits : command ≠ horizontalRule → start < stop → command.Fits text start stop) :
    ∀ written ∈ command.lineTexts text start stop, Flat inlineMarks written := by
  have hempty : Flat inlineMarks (command.markup []) := flat_markup .nil fun _ hne => absurd rfl hne
  unfold lineTexts
  split
  · exact List.forall_mem_singleton.mpr (Front.rule).flat
  · rename_i hrule
    split
    · rename_i hrange
      obtain ⟨hfront, hvalue, hbehind, hdisjoint⟩ := hfits hrule hrange
      have hmem {c : Char} (hc : c ∈ (text.drop start).take (stop - start)) : c ∈ text :=
        List.mem_of_mem_drop (List.mem_of_mem_take hc)
      have hbare (hinline : command.construct ∈ inlineConstructs) :
          Bare ((text.drop start).take (stop - start)) :=
        ⟨Text.span_ne_nil hrange hstop, fun hin => hnewline (hmem hin), fun hin => htag (hmem hin),
          hdisjoint hinline⟩
      have hmarkup := flat_markup hvalue fun hinline _ => hbare hinline
      exact List.forall_mem_singleton.mpr ((hfront.append hmarkup).append hbehind)
    · split
      · exact List.forall_mem_cons.mpr ⟨htext, List.forall_mem_singleton.mpr hempty⟩
      · exact List.forall_mem_singleton.mpr hempty

end Command

end Commands

/-! ### Flat lines in a session -/

namespace Session

variable {session next : Session}

/-- The command fits the part of a line that is selected, if it is allowed and goes to one. -/
def Fits (session : Session) (command : Command) : Prop :=
  session.options.allows command = true → command ≠ .horizontalRule →
    ∀ selection ∈ session.selection, selection.isMultiline = false →
      selection.startOffset < selection.endOffset →
        ∀ line ∈ session.document.texts[selection.startLine]?,
          command.Fits line selection.startOffset selection.endOffset

/-- Every command of the run fits the session that it is applied in. -/
def FitsAll (session : Session) : List Operation → Prop
  | [] => True
  | operation :: operations =>
    (∀ command, operation = .apply command → session.Fits command) ∧
      (session.perform operation).2.FitsAll operations

theorem fits_of_selection {command : Command} {selection : Selection} {line : Text}
    (hselection : session.selection = some selection)
    (hline : session.document.texts[selection.startLine]? = some line)
    (hfits : command.Fits line selection.startOffset selection.endOffset) :
    session.Fits command := by
  intro _ _ other hother _ _ text htext
  obtain rfl : selection = other := Option.some.inj (hselection.symm.trans hother)
  obtain rfl : line = text := Option.some.inj (hline.symm.trans htext)
  exact hfits

theorem flat_of_format {command : Command} {selection : Selection} {patch : Patch}
    {document : Document} (hsound : session.Sound)
    (hallows : session.options.allows command = true)
    (hselection : session.selection = some selection)
    (hformat : session.document.format command selection = some (patch, document))
    (hfits : session.Fits command) (htag : ∀ line ∈ session.document.texts, '<' ∉ line)
    (htexts : ∀ line ∈ session.document.texts, Flat inlineMarks line) :
    ∀ line ∈ document.texts, Flat inlineMarks line := by
  have hdoc := hsound.wellFormed
  have hcurrent := hsound.current selection hselection
  cases hmultiline : selection.isMultiline with
  | true =>
      obtain ⟨edit, hedited, hwrites⟩ := Document.exists_edit_of_format hdoc hcurrent hformat
      rw [hmultiline] at hwrites
      refine hedited.forall_texts htexts fun hremoved => ?_
      rw [hwrites.eq_blockTexts.2]
      exact Command.forall_mem_blockTexts .nil fun text htext =>
        Command.flat_markupLine? (hremoved text htext)
  | false =>
      obtain ⟨hlast, text, htext, hstop, -⟩ := Document.exists_selected_text hcurrent hmultiline
      have hmem := List.mem_of_getElem? htext
      have hmade := @Document.format_of_not_isMultiline session.document.texts
        session.document.version command selection text htext hlast hmultiline
      rw [← hdoc.eq_ofTexts, hformat] at hmade
      obtain ⟨-, rfl⟩ := Prod.mk.inj (Option.some.inj hmade)
      have hline := Command.flat_lineTexts (htexts text hmem) (hdoc.newline_not_mem text hmem)
        (htag text hmem) hstop fun hrule hrange =>
          hfits hallows hrule selection hselection hmultiline hrange text htext
      simp only [Document.texts_ofTexts, List.forall_mem_append]
      exact ⟨⟨fun line hin => htexts line (List.mem_of_mem_take hin), hline⟩,
        fun line hin => htexts line (List.mem_of_mem_drop hin)⟩

theorem flat_performAll (hsound : session.Sound) {operations : List Operation}
    (hgiven : ∀ given ∈ operations.filterMap Operation.given?, given.Disjoint ('<' :: inlineMarks))
    (hfits : session.FitsAll operations) (htag : ∀ line ∈ session.document.texts, '<' ∉ line)
    (htexts : ∀ line ∈ session.document.texts, Flat inlineMarks line) :
    ∀ line ∈ (session.performAll operations).document.texts, Flat inlineMarks line := by
  induction operations generalizing session with
  | nil => exact htexts
  | cons operation operations ih =>
      rw [List.forall_mem_filterMap, List.forall_mem_cons, ← List.forall_mem_filterMap] at hgiven
      have hlines : ∀ given ∈ operation.given?, ∀ line ∈ given.lines,
          '<' ∉ line ∧ line.Disjoint inlineMarks := by
        intro given hmem line hline
        rw [← List.disjoint_cons_right]
        exact fun c hc => hgiven.1 given hmem (Text.mem_of_mem_lines hline hc)
      have hstep := session.step_perform operation
      refine ih (sound_of_step hsound hstep) hgiven.2 hfits.2 ?_ ?_
      · exact (lineInvariant_not_mem (by decide)).forall_texts_of_step hsound hstep
          (fun given hmem line hline => (hlines given hmem line hline).1) htag
      · refine forall_texts_of_step hsound hstep .nil ?_ ?_ htexts
        · intro given hmem line hline
          obtain ⟨htagIn, hmarks⟩ := hlines given hmem line hline
          exact .of_disjoint htagIn hmarks
        · intro command selection patch document heq hallows hselection hformat
          exact flat_of_format hsound hallows hselection hformat (hfits.1 command heq) htag htexts

/-- **Nesting.** Take any session whose texts come without marks and tags. If no line of its text is
torn, the rendering is well nested; and only then, if no link or image is written. No line is torn
if every command fits the part of a line that it is applied to. -/
theorem wellNested_render (text : Text) (options : Options) (operations : List Operation)
    (hgiven : ∀ given ∈ text :: operations.filterMap Operation.given?,
      given.Disjoint ('<' :: inlineMarks)) :
    let session := (start text options).performAll operations
    ((∀ line ∈ session.text.lines, Untorn line) → WellNested session.render) ∧
      ('[' ∉ session.text →
        (WellNested session.render ↔ ∀ line ∈ session.text.lines, Untorn line)) ∧
      ((start text options).FitsAll operations →
        (∀ line ∈ session.text.lines, Untorn line) ∧ WellNested session.render) := by
  intro session
  have hdoc : session.document.WellFormed := (sound_of_start text options operations).wellFormed
  have hlines : session.text.lines = session.document.texts.map Text.dropReturn :=
    Text.lines_unlines hdoc.texts_ne_nil hdoc.newline_not_mem
  have hnewline : ∀ line ∈ session.text.lines, '\n' ∉ line := fun _ =>
    Text.newline_not_mem_of_mem_lines
  have hgivenLines : ∀ given ∈ text :: operations.filterMap Operation.given?,
      ∀ line ∈ given.lines, '<' ∉ line ∧ line.Disjoint inlineMarks := by
    intro given hmem line hline
    rw [← List.disjoint_cons_right]
    exact fun c hc => hgiven given hmem (Text.mem_of_mem_lines hline hc)
  have htag : ∀ line ∈ session.text.lines, '<' ∉ line := by
    have htexts := (lineInvariant_not_mem (by decide)).forall_texts_of_start text options
      fun given hmem line hline => (hgivenLines given hmem line hline).1
    rw [hlines, List.forall_mem_map]
    exact fun line hline hin => htexts line hline (Text.mem_of_mem_dropReturn hin)
  have huntorn (hall : ∀ line ∈ session.text.lines, Untorn line) : WellNested session.render :=
    wellNested_renderLines hall hnewline htag
  refine ⟨huntorn, fun hbracket => ?_, fun hfits => ?_⟩
  · refine wellNested_renderLines_iff hnewline htag fun line hline hin => ?_
    exact hbracket (Text.mem_of_mem_lines hline hin)
  · suffices hall : ∀ line ∈ session.text.lines, Untorn line from ⟨hall, huntorn hall⟩
    obtain ⟨htextLines, hlater⟩ := List.forall_mem_cons.mp hgivenLines
    have hstart : ∀ line ∈ (start text options).document.texts,
        '<' ∉ line ∧ line.Disjoint inlineMarks := by
      rwa [start, Document.ofText_eq_ofTexts, Document.texts_ofTexts]
    have hflat := flat_performAll (sound_start text options)
      (List.forall_mem_cons.mp hgiven).2 hfits (fun line hline => (hstart line hline).1)
      fun line hline => .of_disjoint (hstart line hline).1 (hstart line hline).2
    intro line hline
    refine Flat.untorn ?_ (hnewline line hline)
    rw [hlines] at hline
    obtain ⟨inner, hinner, rfl⟩ := List.mem_map.mp hline
    exact (hflat inner hinner).dropReturn

/-- Bold around bold is read as bold and italic across each other. -/
theorem not_wellNested_render :
    let operations := [.select ⟨0, 0⟩ ⟨0, 4⟩, .apply .bold, .select ⟨0, 0⟩ ⟨0, 8⟩, .apply .bold]
    let session := (start "word".toList {}).performAll operations
    "word".toList.Disjoint ('<' :: inlineMarks) ∧
      session.text = "****word****".toList ∧
      session.render = "<strong>*<em>word</strong></em>*".toList ∧
      ¬WellNested session.render := by
  decide

/-- Two words of a line, one after the other. -/
theorem wellNested_render_of_words :
    let operations := [.select ⟨0, 4⟩ ⟨0, 7⟩, .apply .bold, .select ⟨0, 12⟩ ⟨0, 16⟩, .apply .italic]
    let session := (start "say one word".toList {}).performAll operations
    (start "say one word".toList {}).FitsAll operations ∧
      session.render = "say <strong>one</strong> <em>word</em>".toList ∧
      WellNested session.render ∧ ∀ line ∈ session.text.lines, Untorn line := by
  intro operations session
  have hplain (text : Text) (htext : '<' ∉ text ∧ text.Disjoint inlineMarks) :
      Flat inlineMarks text := .of_disjoint htext.1 htext.2
  have hone : Part inlineMarks ("**".toList ++ ("one".toList ++ "**".toList)) :=
    .enclosed (by decide) (by decide)
  have hfront : Flat inlineMarks "say **one** ".toList :=
    (hplain "say ".toList (by decide)).append (.part hone (hplain [' '] (by decide)))
  have hbold : Command.bold.Fits "say one word".toList 4 7 := .of_disjoint (by decide) (by decide)
  have hitalic : Command.italic.Fits "say **one** word".toList 12 16 :=
    ⟨hfront, hplain "word".toList (by decide), hplain [] (by decide), by decide⟩
  have hfits : (start "say one word".toList {}).FitsAll operations := by
    refine ⟨nofun, ?_, nofun, ?_, trivial⟩
    · rintro _ ⟨⟩
      exact @fits_of_selection _ _ ⟨0, 0, 4, 7, [⟨0, "say one word".toList⟩], "one".toList⟩ _
        (by decide) (by decide) hbold
    · rintro _ ⟨⟩
      exact @fits_of_selection _ _
        ⟨0, 0, 12, 16, [⟨0, "say **one** word".toList⟩], "word".toList⟩ _
        (by decide) (by decide) hitalic
  obtain ⟨-, -, hflat⟩ := wellNested_render "say one word".toList {} operations (by decide)
  obtain ⟨huntorn, hnested⟩ := hflat hfits
  exact ⟨hfits, by decide, hnested, huntorn⟩

end Session

end MarkupEditor
