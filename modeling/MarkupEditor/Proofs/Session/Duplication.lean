import MarkupEditor.Proofs.Session.Reopening
import MarkupEditor.Proofs.Session.History

/-!
# Duplicated selections

Pasting what has just been copied puts another copy of the selected text below the selection. The
selection stays captured and current, also where it ends on the last line, so this can be done any
number of times: each new copy goes above the ones that are there. A text without carriage returns
is taken apart again just where its lines were joined.
-/

namespace MarkupEditor

namespace Text

variable {text : Text}

/-- In a text without carriage returns, line feeds are all that line endings are made of. -/
theorem lines_eq_splitOn (hreturn : '\r' ∉ text) : text.lines = text.splitOn '\n' := by
  have hjoined : unlines (text.splitOn '\n') = text := List.intercalate_splitOn '\n'
  apply map_dropReturn_eq_self_iff.mpr
  intro piece hpiece hlast
  have hmem : '\r' ∈ unlines (text.splitOn '\n') := mem_unlines hpiece (List.mem_of_getLast? hlast)
  rw [hjoined] at hmem
  exact hreturn hmem

end Text

namespace Document

/-- The texts of the lines with others put in at a place. -/
def textsWith (doc : Document) (place : Nat) (inserted : List Text) : List Text :=
  doc.texts.take place ++ inserted ++ doc.texts.drop place

section TextsWith

variable {doc : Document} {place : Nat} {first second : List Text} {version : Nat}

theorem textsWith_nil (doc : Document) (place : Nat) : doc.textsWith place [] = doc.texts := by
  rw [textsWith, List.append_nil, List.take_append_drop]

/-- What is put in later at the same place comes first. -/
theorem textsWith_textsWith (hplace : place ≤ doc.lineCount) :
    (ofTexts (doc.textsWith place first) version).textsWith place second =
      doc.textsWith place (second ++ first) := by
  have hlength : (doc.texts.take place).length = place := by
    rw [List.length_take, length_texts]
    exact Nat.min_eq_left hplace
  have htake : (doc.textsWith place first).take place = doc.texts.take place := by
    rw [textsWith, List.append_assoc]
    exact List.take_left' hlength
  have hdrop : (doc.textsWith place first).drop place = first ++ doc.texts.drop place := by
    rw [textsWith, List.append_assoc]
    exact List.drop_left' hlength
  calc (ofTexts (doc.textsWith place first) version).textsWith place second
      = (doc.textsWith place first).take place ++ second ++
          (doc.textsWith place first).drop place := by rw [textsWith, texts_ofTexts]
    _ = doc.texts.take place ++ second ++ (first ++ doc.texts.drop place) := by rw [htake, hdrop]
    _ = doc.textsWith place (second ++ first) := by simp only [textsWith, List.append_assoc]

end TextsWith

end Document

namespace Session

/-- Copies what is selected and pastes it, so many times in a row. -/
def duplicate (session : Session) : Nat → Except EditError Session
  | 0 => .ok session
  | n + 1 => do
    let text ← session.copy
    let (_, next) ← session.paste text
    next.duplicate n

/-- The session with these lines put in below the selection, in so many changes. -/
def withBelow (session : Session) (selection : Selection) (inserted : List Text) (changes : Nat) :
    Session :=
  let texts := session.document.textsWith (selection.endLine + 1) inserted
  { session with document := .ofTexts texts (session.document.version + changes) }

section Duplicate

variable {session : Session} {selection : Selection}

theorem withBelow_withBelow {first second : List Text} {earlier later : Nat}
    (hlast : selection.endLine < session.document.lineCount) :
    (session.withBelow selection first earlier).withBelow selection second later =
      session.withBelow selection (second ++ first) (earlier + later) := by
  have htexts : (session.withBelow selection first earlier).document.textsWith
      (selection.endLine + 1) second =
        session.document.textsWith (selection.endLine + 1) (second ++ first) :=
    Document.textsWith_textsWith hlast
  have hversion : (session.withBelow selection first earlier).document.version + later =
      session.document.version + (earlier + later) := Nat.add_assoc _ _ _
  rw [withBelow, htexts, hversion]
  rfl

theorem copy_of_selection (hclipboard : session.options.clipboardEnabled = true)
    (hselection : session.selection = some selection) :
    session.copy = .ok selection.rawText := by
  simp only [copy, hclipboard, hselection]
  rfl

theorem pasted_eq (hsound : session.Sound) (hselection : session.selection = some selection)
    (text : Text) :
    session.pasted selection text = session.withBelow selection text.lines 1 := by
  have hlast := (hsound.current selection hselection).endLine_lt
  have hplace : session.pastePlace selection = selection.endLine + 1 := by
    rw [pastePlace]
    omega
  have hedited := Document.edited_insertLines hsound.wellFormed (Nat.succ_le_of_lt hlast)
    (Text.lines_ne_nil text) fun _ => Text.newline_not_mem_of_mem_lines
  rw [pasted, hplace, hedited.next_eq]
  rfl

theorem duplicate_succ (hclipboard : session.options.clipboardEnabled = true)
    (hselection : session.selection = some selection) (n : Nat) :
    session.duplicate (n + 1) = (session.pasted selection selection.rawText).duplicate n := by
  have hcopy := copy_of_selection hclipboard hselection
  have hpaste := paste_of_selection hclipboard hselection selection.rawText
  rw [duplicate, hcopy]
  change session.paste selection.rawText >>= _ = _
  rw [hpaste]
  rfl

/-- All copies come to stand between the selection and what was below it. -/
theorem duplicate_eq (hsound : session.Sound)
    (hclipboard : session.options.clipboardEnabled = true)
    (hselection : session.selection = some selection) (n : Nat) :
    session.duplicate n = .ok
      (session.withBelow selection (List.replicate n selection.rawText.lines).flatten n) := by
  induction n generalizing session with
  | zero =>
      rw [List.replicate_zero, List.flatten_nil, withBelow, Document.textsWith_nil, Nat.add_zero,
        ← hsound.wellFormed.eq_ofTexts]
      rfl
  | succ n ih =>
      have hlast := (hsound.current selection hselection).endLine_lt
      have hpasted := pasted_eq hsound hselection selection.rawText
      have hnext : (session.pasted selection selection.rawText).Sound :=
        sound_of_step hsound (.paste hclipboard hselection)
      have hcopies : (List.replicate n selection.rawText.lines).flatten ++ selection.rawText.lines =
          (List.replicate (n + 1) selection.rawText.lines).flatten := by
        rw [List.replicate_succ', List.flatten_append, List.flatten_singleton]
      rw [duplicate_succ hclipboard hselection, ih hnext hclipboard hselection, hpasted,
        withBelow_withBelow hlast, hcopies, Nat.add_comm 1 n]

/-- Over several lines, the lines that are pasted are the selected ones. -/
theorem splitOn_rawText_of_lines (hsound : session.Sound)
    (hselection : session.selection = some selection) (hseveral : selection.isMultiline = true) :
    selection.rawText.splitOn '\n' =
      (session.document.texts.take (selection.endLine + 1)).drop selection.startLine := by
  have hcurrent := hsound.current selection hselection
  have hlt := hcurrent.isMultiline_iff.mp hseveral
  have hlast : selection.endLine < session.document.texts.length := by
    rw [Document.length_texts]
    exact hcurrent.endLine_lt
  have hlength := @Document.length_segment _ _ selection.startLine _ hlast
  rw [hcurrent.of_lines hlt]
  apply Text.splitOn_unlines
  · intro hnil
    rw [hnil, List.length_nil] at hlength
    omega
  · intro line hline
    exact hsound.wellFormed.newline_not_mem line (List.mem_of_mem_take (List.mem_of_mem_drop hline))

/-- Within one line, one line is pasted. -/
theorem splitOn_rawText_of_line (hsound : session.Sound)
    (hselection : session.selection = some selection) (hsingle : selection.isMultiline = false) :
    selection.rawText.splitOn '\n' = [selection.rawText] := by
  have hcurrent := hsound.current selection hselection
  have hnot : ¬selection.startLine < selection.endLine := by
    rw [← hcurrent.isMultiline_iff, hsingle]
    exact Bool.false_ne_true
  have hsame : selection.startLine = selection.endLine :=
    Nat.le_antisymm hcurrent.startLine_le (Nat.not_lt.mp hnot)
  obtain ⟨line, hline⟩ := Document.exists_line? (hsame ▸ hcurrent.endLine_lt)
  have hmem : line.text ∈ session.document.texts :=
    List.mem_map.mpr ⟨line, List.mem_of_getElem? hline, rfl⟩
  have hraw := (hcurrent.of_line line hsame hline).2.2
  have hnewline : '\n' ∉ selection.rawText := by
    rw [hraw]
    intro hin
    exact hsound.wellFormed.newline_not_mem _ hmem
      (List.mem_of_mem_drop (List.mem_of_mem_take hin))
  have hsplit := Text.splitOn_unlines (List.cons_ne_nil selection.rawText [])
    (List.forall_mem_singleton.mpr hnewline)
  rwa [Text.unlines_cons, List.flatMap_nil, List.append_nil] at hsplit

end Duplicate

/-- **Selections are duplicated.** In every session that a host can reach, with the clipboard on and
a text without carriage returns selected, copying and pasting goes through any number of times. It
leaves the selection as it is, raises the version by one each time, and puts the lines of the
selected text, once for each time, between the selection and what was below it. These are the
selected lines themselves if there are several, and otherwise one line with the selected text. -/
theorem duplicate_below_selection (text : Text) (options : Options) (operations : List Operation)
    (selection : Selection) (n : Nat) :
    let session := (start text options).performAll operations
    options.clipboardEnabled = true → session.selection = some selection →
      '\r' ∉ selection.rawText →
        (∃ next, session.duplicate n = .ok next ∧
          next.selection = some selection ∧ next.copy = .ok selection.rawText ∧
          next.document.version = session.document.version + n ∧
          next.document.texts = session.document.texts.take (selection.endLine + 1) ++
            (List.replicate n (selection.rawText.splitOn '\n')).flatten ++
              session.document.texts.drop (selection.endLine + 1)) ∧
        selection.rawText.splitOn '\n' =
          if selection.isMultiline then
            (session.document.texts.take (selection.endLine + 1)).drop selection.startLine
          else [selection.rawText] := by
  intro session hclipboard hselection hreturn
  have hsound : session.Sound := sound_of_start text options operations
  have hoptions : session.options = options := options_performAll _ operations
  rw [← hoptions] at hclipboard
  constructor
  · refine ⟨_, duplicate_eq hsound hclipboard hselection n, hselection,
      copy_of_selection hclipboard hselection, rfl, ?_⟩
    rw [withBelow, Document.texts_ofTexts, Text.lines_eq_splitOn hreturn, Document.textsWith]
  · cases hmultiline : selection.isMultiline with
    | true => exact splitOn_rawText_of_lines hsound hselection hmultiline
    | false => exact splitOn_rawText_of_line hsound hselection hmultiline

/-- Both lines, the last one among them, twice over. -/
theorem duplicate_below_last_line :
    let session := (start "a\nb".toList { clipboardEnabled := true }).performAll
      [.select ⟨1, 0⟩ ⟨0, 1⟩]
    ∃ next, session.duplicate 2 = .ok next ∧ next.copy = .ok "a\nb".toList ∧
      next.document.version = 2 ∧ next.text = "a\nb\na\nb\na\nb".toList := by
  intro session
  have hselection : session.selection =
      some ⟨0, 1, 0, 1, [⟨0, "a".toList⟩, ⟨1, "b".toList⟩], "a\nb".toList⟩ := by decide
  obtain ⟨⟨next, hnext, -, hcopy, hversion, htexts⟩, -⟩ :=
    duplicate_below_selection "a\nb".toList { clipboardEnabled := true } [.select ⟨1, 0⟩ ⟨0, 1⟩] _
      2 rfl hselection (by decide)
  refine ⟨next, hnext, hcopy, hversion, ?_⟩
  rw [text, Document.text, htexts]
  decide

end Session

end MarkupEditor
