import MarkupEditor.Proofs.Document.Formatting

/-!
# A session's selection is current

Of all operations only a paste changes the document and keeps the selection, and it writes below the
last selected line. So whatever a session has captured is current on its document, and a command has
an effect as soon as it is allowed and something is selected.
-/

namespace MarkupEditor

namespace Document

variable {doc : Document} {place : Nat} {texts : List Text}

theorem lineCount_insertLines (hplace : place ≤ doc.lineCount) :
    (doc.insertLines place texts).lineCount = doc.lineCount + texts.length := by
  have hcount : place ≤ doc.lines.length := hplace
  simp only [insertLines, reindexFrom, lineCount, Nat.min_eq_left hcount, List.length_mapIdx,
    List.length_append, List.length_take, List.length_drop, List.length_map]
  omega

theorem take_insertLines (hplace : place ≤ doc.lineCount) :
    (doc.insertLines place texts).lines.take place = doc.lines.take place := by
  have hcount : place ≤ doc.lines.length := hplace
  have hfront : (doc.lines.take place).length = place := by
    rw [List.length_take, Nat.min_eq_left hcount]
  apply List.ext_getElem?
  intro i
  by_cases hi : i < place
  · rw [List.getElem?_take_of_lt hi, List.getElem?_take_of_lt hi]
    simp only [insertLines, Nat.min_eq_left hplace, reindexFrom, List.getElem?_mapIdx, hi,
      ↓reduceIte, Option.map_id_fun', List.append_assoc]
    rw [List.getElem?_append_left (by omega), List.getElem?_take_of_lt hi]
    rfl
  · rw [List.getElem?_take_eq_none (by omega), List.getElem?_take_eq_none (by omega)]

end Document

namespace Session

variable {session next : Session}

/-- Whatever the session has captured is current on its document. -/
def Current (session : Session) : Prop :=
  ∀ selection, session.selection = some selection → selection.Current session.document

theorem current_of_selection_eq_none (hnone : session.selection = none) : session.Current := by
  intro selection hselection
  rw [hnone] at hselection
  contradiction

/-- Pasted lines go right below the selection, so they leave it as it is. -/
theorem current_pasted {selection : Selection} (hcurrent : session.Current)
    (hselection : session.selection = some selection) (text : Text) :
    (session.pasted selection text).Current := by
  intro captured hcaptured
  obtain rfl : selection = captured := Option.some.inj (hselection.symm.trans hcaptured)
  have hselected := hcurrent selection hselection
  have hlast := hselected.endLine_lt
  have hplace : session.pastePlace selection = selection.endLine + 1 := by
    rw [pastePlace]
    omega
  have hcount := @Document.lineCount_insertLines session.document (selection.endLine + 1)
    text.lines hlast
  have htake := @Document.take_insertLines session.document (selection.endLine + 1) text.lines hlast
  rw [pasted, hplace]
  apply hselected.of_take_eq
  · change selection.endLine <
      (session.document.insertLines (selection.endLine + 1) text.lines).lineCount
    omega
  · exact htake

theorem current_of_step {operation : Operation} {reply : Reply} (hcurrent : session.Current)
    (hstep : session.Step operation reply next) : next.Current := by
  cases hstep with
  | select anchor focus =>
      intro selection hselection
      exact Document.current_of_select hselection
  | clearSelection => exact current_of_selection_eq_none rfl
  | apply hallows hselection hformat => exact current_of_selection_eq_none rfl
  | unchanged happly => exact hcurrent
  | ingest hlines => exact current_of_selection_eq_none rfl
  | paste hclipboard hselection => exact current_pasted hcurrent hselection _
  | copy hclipboard hselection => exact hcurrent
  | reset => exact current_of_selection_eq_none rfl
  | ingestRefused | pasteDisabled | pasteNowhere | copyDisabled | copyNothing => exact hcurrent

theorem current_performAll (hcurrent : session.Current) (operations : List Operation) :
    (session.performAll operations).Current := by
  induction operations generalizing session with
  | nil => exact hcurrent
  | cons operation operations ih =>
      have hstep := current_of_step hcurrent (session.step_perform operation)
      exact ih hstep

/-- In every session that a host can reach, the captured selection is current. -/
theorem current_of_start (text : Text) (options : Options) (operations : List Operation) :
    ((start text options).performAll operations).Current := by
  apply current_performAll
  exact current_of_selection_eq_none rfl

/-- With a current selection, a command has no effect only if it is not allowed or nothing is
selected. -/
theorem apply_eq_none_iff (hcurrent : session.Current) (command : Command) :
    session.apply command = none ↔
      command ∉ session.options.allowedCommands ∨ session.selection = none := by
  have hallowed : session.options.allows command = true ↔
      command ∈ session.options.allowedCommands := by
    simp [Options.allows]
  constructor
  · intro happly
    by_cases hmem : command ∈ session.options.allowedCommands
    · right
      cases hselection : session.selection with
      | none => rfl
      | some selection =>
          have hselected := hcurrent selection hselection
          obtain ⟨patch, document, hformat⟩ :=
            Document.exists_format command hselected.startLine_le hselected.endLine_lt
          have hsome := apply_of_format (hallowed.mpr hmem) hselection hformat
          rw [happly] at hsome
          contradiction
    · exact Or.inl hmem
  · intro hnone
    cases happly : session.apply command with
    | none => rfl
    | some result =>
        obtain ⟨hallows, selection, -, hselection, -⟩ := apply_eq_some_iff.mp happly
        rcases hnone with hmem | hempty
        · exact absurd (hallowed.mp hallows) hmem
        · rw [hempty] at hselection
          contradiction

end Session

end MarkupEditor
