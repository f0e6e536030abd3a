import MarkupEditor.Session

/-!
# What a failure leaves

Formatting a document and editing a session work in place, and each can be left early, by several
exits. Such an exit hands over the state as it is by then, and it always stands in front of the
first change. So a failure leaves the state as it was, and what an operation makes of a state can be
read off its result.
-/

namespace MarkupEditor

/-- Where the action fails, it leaves the state as it was. -/
def Atomic {σ α : Type} (fails : α → Prop) (action : StateM σ α) : Prop :=
  ∀ state, fails (action.run state).1 → (action.run state).2 = state

namespace Document

/-- The exits of a command, with the document at each of them. -/
theorem run_formatM_some (doc : Document) (command : Command) (selection : Selection) :
    (formatM command (some selection)).run doc =
      if doc.lineCount ≤ selection.endLine then (none, doc)
      else if selection.isMultiline = true then
        let (changed, next) := doc.formatBlock command selection
        let (patch, next) := next.commit changed
        (some patch, next)
      else match doc.line? selection.startLine with
        | none => (none, doc)
        | some line =>
          let (changed, next) := doc.formatLine command line selection
          let (patch, next) := next.commit changed
          (some patch, next) := by
  simp only [formatM, StateT.run_bind, StateT.run_get, pure_bind]
  by_cases hcount : doc.lineCount ≤ selection.endLine
  · rw [if_pos hcount, if_pos hcount]
    rfl
  · rw [if_neg hcount, if_neg hcount]
    by_cases hmultiline : selection.isMultiline = true
    · rw [if_pos hmultiline, if_pos hmultiline]
      rfl
    · rw [if_neg hmultiline, if_neg hmultiline]
      simp only [StateT.run_bind, StateT.run_get, pure_bind]
      cases doc.line? selection.startLine with
      | none => rfl
      | some line => rfl

/-- A command finds out that it has nothing to work on before it writes anything. -/
theorem atomic_formatM (command : Command) (selection? : Option Selection) :
    Atomic (· = none) (formatM command selection?) := by
  intro doc hnone
  cases selection? with
  | none => rfl
  | some selection =>
      rw [run_formatM_some] at hnone ⊢
      by_cases hcount : doc.lineCount ≤ selection.endLine
      · rw [if_pos hcount]
      · rw [if_neg hcount] at hnone ⊢
        by_cases hmultiline : selection.isMultiline = true
        · rw [if_pos hmultiline] at hnone
          exact absurd hnone (Option.some_ne_none _)
        · rw [if_neg hmultiline] at hnone ⊢
          cases hline : doc.line? selection.startLine with
          | none => rfl
          | some line =>
              rw [hline] at hnone
              exact absurd hnone (Option.some_ne_none _)

/-- A command that counted its change first would not be atomic. -/
example : ¬Atomic (· = none) (do modify bump; formatM .bold none) := by
  intro hatomic
  exact absurd (hatomic empty rfl) (by decide)

theorem run_formatM_of_format {doc next : Document} {command : Command} {selection : Selection}
    {patch : Patch} (hformat : doc.format command selection = some (patch, next)) :
    (formatM command (some selection)).run doc = (some patch, next) := by
  rw [format] at hformat
  generalize (formatM command (some selection)).run doc = result at *
  obtain ⟨_ | made, left⟩ := result
  · cases hformat
  · cases hformat
    rfl

theorem format_eq (doc : Document) (command : Command) (selection : Selection) :
    doc.format command selection =
      if doc.lineCount ≤ selection.endLine then none
      else if selection.isMultiline = true then
        let (changed, next) := doc.formatBlock command selection
        some (next.commit changed)
      else do
        let line ← doc.line? selection.startLine
        let (changed, next) := doc.formatLine command line selection
        return next.commit changed := by
  rw [format, run_formatM_some]
  by_cases hcount : doc.lineCount ≤ selection.endLine
  · rw [if_pos hcount, if_pos hcount]
    rfl
  · rw [if_neg hcount, if_neg hcount]
    by_cases hmultiline : selection.isMultiline = true
    · rw [if_pos hmultiline, if_pos hmultiline]
      rfl
    · rw [if_neg hmultiline, if_neg hmultiline]
      cases doc.line? selection.startLine with
      | none => rfl
      | some line => rfl

end Document

namespace Session

theorem run_onDocument {α : Type} (action : StateM Document α) (session : Session) :
    (onDocument action).run session =
      ((action.run session.document).1,
        { session with document := (action.run session.document).2 }) :=
  rfl

theorem run_applyM (session : Session) (command : Command) :
    (applyM command).run session =
      if session.options.allows command = true then
        match (Document.formatM command session.selection).run session.document with
        | (none, document) => (none, { session with document })
        | (some patch, document) => (some patch, { session with document, selection := none })
      else (none, session) := by
  simp only [applyM, StateT.run_bind, StateT.run_get, pure_bind]
  cases session.options.allows command with
  | false => rfl
  | true =>
      simp only [Bool.not_true, Bool.false_eq_true, ↓reduceIte, StateT.run_bind, run_onDocument]
      generalize (Document.formatM command session.selection).run session.document = result
      obtain ⟨_ | patch, document⟩ := result
      · rfl
      · rfl

/-- The document of a failed command is the one before it, and so is all that is around it. -/
theorem atomic_applyM (command : Command) : Atomic (· = none) (applyM command) := by
  intro session hnone
  rw [run_applyM] at hnone ⊢
  by_cases hallows : session.options.allows command = true
  · rw [if_pos hallows] at hnone ⊢
    have hkept := Document.atomic_formatM command session.selection session.document
    generalize (Document.formatM command session.selection).run session.document = result at *
    obtain ⟨_ | patch, document⟩ := result
    · exact congrArg (Session.mk · session.selection session.options) (hkept rfl)
    · exact absurd hnone (Option.some_ne_none _)
  · rw [if_neg hallows]

/-- Whether a command has an effect decides what is behind it. -/
theorem run_applyM_eq_apply (session : Session) (command : Command) :
    (applyM command).run session =
      match session.apply command with
      | some (patch, next) => (some patch, next)
      | none => (none, session) := by
  have hkept := atomic_applyM command session
  rw [apply]
  generalize (applyM command).run session = result at *
  obtain ⟨_ | patch, next⟩ := result
  · exact congrArg (Prod.mk none) (hkept rfl)
  · rfl

theorem run_ingestM (session : Session) (text : Text) :
    (ingestM text).run session =
      if !session.options.allowMultilineCommit ∧ session.document.lineCount < text.lines.length then
        (.error (.multilineCommit (text.lines.length - session.document.lineCount)), session)
      else (.ok (session.replace text).1, (session.replace text).2) := by
  simp only [ingestM, StateT.run_bind, StateT.run_get, pure_bind]
  split
  · rfl
  · rfl

theorem ingest_eq_ite (session : Session) (text : Text) :
    session.ingest text =
      if !session.options.allowMultilineCommit ∧ session.document.lineCount < text.lines.length then
        .error (.multilineCommit (text.lines.length - session.document.lineCount))
      else .ok (session.replace text) := by
  rw [ingest, run_ingestM]
  by_cases hrefused : (!session.options.allowMultilineCommit) = true ∧
      session.document.lineCount < text.lines.length
  · rw [if_pos hrefused, if_pos hrefused]
    rfl
  · rw [if_neg hrefused, if_neg hrefused]
    rfl

theorem atomic_ingestM (text : Text) :
    Atomic (fun result => result.isOk = false) (ingestM text) := by
  intro session herror
  rw [run_ingestM] at herror ⊢
  by_cases hrefused : (!session.options.allowMultilineCommit) = true ∧
      session.document.lineCount < text.lines.length
  · rw [if_pos hrefused]
  · rw [if_neg hrefused] at herror
    cases herror

theorem run_pasteM (session : Session) (text : Text) :
    (pasteM text).run session =
      if !session.options.clipboardEnabled then (.error (.pasteDisabled text.byteLength), session)
      else match session.selection with
        | none => (.error .noSelection, session)
        | some selection =>
          let place := min (selection.endLine + 1) session.document.lineCount
          let document := session.document.insertLines place text.lines
          let (patch, document) := document.commit ⟨place, place + text.lines.length⟩
          (.ok patch, { session with document }) := by
  obtain ⟨document, selection?, options⟩ := session
  simp only [pasteM, StateT.run_bind, StateT.run_get, pure_bind]
  cases options.clipboardEnabled with
  | false => rfl
  | true =>
      simp only [Bool.not_true, Bool.false_eq_true, ↓reduceIte]
      cases selection? with
      | none => rfl
      | some selection => rfl

theorem paste_eq_ite (session : Session) (text : Text) :
    session.paste text =
      if !session.options.clipboardEnabled then .error (.pasteDisabled text.byteLength)
      else match session.selection with
        | none => .error .noSelection
        | some selection =>
          let place := min (selection.endLine + 1) session.document.lineCount
          let document := session.document.insertLines place text.lines
          let (patch, document) := document.commit ⟨place, place + text.lines.length⟩
          .ok (patch, { session with document }) := by
  rw [paste, run_pasteM]
  cases session.options.clipboardEnabled with
  | false => rfl
  | true =>
      obtain ⟨document, selection?, options⟩ := session
      cases selection? with
      | none => rfl
      | some selection => rfl

theorem atomic_pasteM (text : Text) :
    Atomic (fun result => result.isOk = false) (pasteM text) := by
  intro session herror
  rw [run_pasteM] at herror ⊢
  cases hclipboard : session.options.clipboardEnabled with
  | false => rfl
  | true =>
      cases hselection : session.selection with
      | none => rfl
      | some selection =>
          rw [hclipboard, hselection] at herror
          cases herror

/-! ### Replies -/

theorem perform_apply (session : Session) (command : Command) :
    session.perform (.apply command) =
      match session.apply command with
      | some (patch, next) => (.patched patch, next)
      | none => (.unchanged, session) := by
  rw [perform, performM, StateT.run_bind, run_applyM_eq_apply]
  cases session.apply command with
  | none => rfl
  | some result => rfl

/-- An edit that is atomic leaves a refused session as it was. -/
theorem run_ofEdit {action : StateM Session (Except EditError Patch)}
    (hatomic : Atomic (fun result => result.isOk = false) action) (session : Session) :
    (do return Reply.ofEdit (← action) : StateM Session Reply).run session =
      match (action.run session).1.map fun patch => (patch, (action.run session).2) with
      | .ok (patch, next) => (.patched patch, next)
      | .error error => (.refused error, session) := by
  have hkept := hatomic session
  rw [StateT.run_bind]
  generalize action.run session = result at *
  obtain ⟨error | patch, next⟩ := result
  · exact congrArg (Prod.mk (Reply.refused error)) (hkept rfl)
  · rfl

theorem perform_ingest (session : Session) (text : Text) :
    session.perform (.ingest text) =
      match session.ingest text with
      | .ok (patch, next) => (.patched patch, next)
      | .error error => (.refused error, session) :=
  run_ofEdit (atomic_ingestM text) session

theorem perform_paste (session : Session) (text : Text) :
    session.perform (.paste text) =
      match session.paste text with
      | .ok (patch, next) => (.patched patch, next)
      | .error error => (.refused error, session) :=
  run_ofEdit (atomic_pasteM text) session

theorem perform_copy (session : Session) :
    session.perform .copy =
      match session.copy with
      | .ok text => (.copied text, session)
      | .error error => (.refused error, session) := by
  rw [perform, performM, StateT.run_bind, StateT.run_get, pure_bind]
  cases session.copy with
  | error error => rfl
  | ok text => rfl

end Session

end MarkupEditor
