import MarkupEditor.Proofs.Session.Atomicity

/-!
# Steps of a session

The relation `Step` says case by case what an operation does, with the condition under which it goes
through or is refused. Every operation performed is such a step, so an invariant of sessions needs
one argument for each case.
-/

namespace MarkupEditor.Session

def pastePlace (session : Session) (selection : Selection) : Nat :=
  min (selection.endLine + 1) session.document.lineCount

def pasted (session : Session) (selection : Selection) (text : Text) : Session :=
  { session with
    document := (session.document.insertLines (session.pastePlace selection) text.lines).bump }

/-- One operation, its reply, and the session behind it. -/
inductive Step (session : Session) : Operation → Reply → Session → Prop where
  | select (anchor focus : Position) :
      Step session (.select anchor focus)
        (.selected (session.document.select anchor focus).isSome) (session.select anchor focus)
  | clearSelection : Step session .clearSelection .cleared session.clearSelection
  | apply {command : Command} {selection : Selection} {patch : Patch} {document : Document}
      (hallows : session.options.allows command = true)
      (hselection : session.selection = some selection)
      (hformat : session.document.format command selection = some (patch, document)) :
      Step session (.apply command) (.patched patch) { session with document, selection := none }
  | unchanged {command : Command} (happly : session.apply command = none) :
      Step session (.apply command) .unchanged session
  | ingest {text : Text}
      (hlines : session.options.allowMultilineCommit = true ∨
        text.lines.length ≤ session.document.lineCount) :
      Step session (.ingest text) (.patched (session.replace text).1) (session.replace text).2
  | paste {text : Text} {selection : Selection}
      (hclipboard : session.options.clipboardEnabled = true)
      (hselection : session.selection = some selection) :
      Step session (.paste text)
        (.patched ⟨⟨session.pastePlace selection,
          session.pastePlace selection + text.lines.length⟩, session.document.version + 1⟩)
        (session.pasted selection text)
  | copy {selection : Selection} (hclipboard : session.options.clipboardEnabled = true)
      (hselection : session.selection = some selection) :
      Step session .copy (.copied selection.rawText) session
  | reset : Step session .reset (.patched session.reset.1) session.reset.2
  | ingestRefused {text : Text} (hoff : session.options.allowMultilineCommit = false)
      (hlines : session.document.lineCount < text.lines.length) :
      Step session (.ingest text)
        (.refused (.multilineCommit (text.lines.length - session.document.lineCount))) session
  | pasteDisabled {text : Text} (hclipboard : session.options.clipboardEnabled = false) :
      Step session (.paste text) (.refused (.pasteDisabled text.byteLength)) session
  | pasteNowhere {text : Text} (hclipboard : session.options.clipboardEnabled = true)
      (hselection : session.selection = none) :
      Step session (.paste text) (.refused .noSelection) session
  | copyDisabled (hclipboard : session.options.clipboardEnabled = false) :
      Step session .copy (.refused .copyDisabled) session
  | copyNothing (hclipboard : session.options.clipboardEnabled = true)
      (hselection : session.selection = none) :
      Step session .copy (.refused .noSelection) session

theorem selection_replace (session : Session) (text : Text) :
    (session.replace text).2.selection = none :=
  rfl

theorem apply_eq (session : Session) (command : Command) :
    session.apply command =
      if session.options.allows command = true then
        session.selection.bind fun selection =>
          (session.document.format command selection).map fun result =>
            (result.1, { session with document := result.2, selection := none })
      else none := by
  rw [apply, run_applyM]
  cases session.options.allows command with
  | false => rfl
  | true =>
      obtain ⟨document, selection?, options⟩ := session
      cases selection? with
      | none => rfl
      | some selection =>
          simp only [↓reduceIte, Option.bind_some, Document.format]
          generalize (Document.formatM command (some selection)).run document = result
          obtain ⟨_ | patch, next⟩ := result
          · rfl
          · rfl

theorem apply_eq_some_iff {session next : Session} {command : Command} {patch : Patch} :
    session.apply command = some (patch, next) ↔
      session.options.allows command = true ∧
        ∃ selection document, session.selection = some selection ∧
          session.document.format command selection = some (patch, document) ∧
            { session with document, selection := none } = next := by
  rw [apply_eq]
  by_cases hallows : session.options.allows command = true
  · simp only [hallows, ↓reduceIte, Option.bind_eq_some_iff, Option.map_eq_some_iff, true_and]
    constructor
    · rintro ⟨selection, hselection, ⟨made, document⟩, hformat, heq⟩
      obtain ⟨rfl, hnext⟩ := Prod.mk.inj heq
      exact ⟨selection, document, hselection, hformat, hnext⟩
    · rintro ⟨selection, document, hselection, hformat, rfl⟩
      exact ⟨selection, hselection, (patch, document), hformat, rfl⟩
  · simp [hallows]

theorem apply_of_format {session : Session} {selection : Selection} {command : Command}
    {patch : Patch} {document : Document}
    (hallows : session.options.allows command = true)
    (hselection : session.selection = some selection)
    (hformat : session.document.format command selection = some (patch, document)) :
    session.apply command = some (patch, { session with document, selection := none }) :=
  apply_eq_some_iff.mpr ⟨hallows, selection, document, hselection, hformat, rfl⟩

theorem paste_of_selection {session : Session} {selection : Selection}
    (hclipboard : session.options.clipboardEnabled = true)
    (hselection : session.selection = some selection) (text : Text) :
    session.paste text = .ok
      (⟨⟨session.pastePlace selection, session.pastePlace selection + text.lines.length⟩,
          session.document.version + 1⟩, session.pasted selection text) := by
  have hpaste : session.paste text = .ok
      (⟨⟨session.pastePlace selection, session.pastePlace selection + text.lines.length⟩,
          session.document.version + 1⟩,
        ⟨(session.pasted selection text).document, some selection, session.options⟩) := by
    simp only [paste_eq_ite, hclipboard, hselection]
    rfl
  rw [hpaste, ← hselection]
  rfl

theorem step_apply (session : Session) (command : Command) :
    session.Step (.apply command) (session.perform (.apply command)).1
      (session.perform (.apply command)).2 := by
  cases happly : session.apply command with
  | none =>
      simp only [perform_apply, happly]
      exact .unchanged happly
  | some result =>
      obtain ⟨patch, next⟩ := result
      obtain ⟨hallows, selection, document, hselection, hformat, rfl⟩ :=
        apply_eq_some_iff.mp happly
      simp only [perform_apply, happly]
      exact .apply hallows hselection hformat

theorem step_ingest (session : Session) (text : Text) :
    session.Step (.ingest text) (session.perform (.ingest text)).1
      (session.perform (.ingest text)).2 := by
  by_cases hguard : (!session.options.allowMultilineCommit) = true ∧
      session.document.lineCount < text.lines.length
  · have hoff : session.options.allowMultilineCommit = false := by simpa using hguard.1
    simp only [perform_ingest, ingest_eq_ite, if_pos hguard]
    exact .ingestRefused hoff hguard.2
  · have hlines : session.options.allowMultilineCommit = true ∨
        text.lines.length ≤ session.document.lineCount := by
      cases hoff : session.options.allowMultilineCommit with
      | true => exact Or.inl rfl
      | false =>
          right
          simpa [hoff] using hguard
    simp only [perform_ingest, ingest_eq_ite, if_neg hguard]
    exact .ingest hlines

theorem step_paste (session : Session) (text : Text) :
    session.Step (.paste text) (session.perform (.paste text)).1
      (session.perform (.paste text)).2 := by
  cases hclipboard : session.options.clipboardEnabled with
  | false =>
      simp only [perform_paste, paste_eq_ite, hclipboard]
      exact .pasteDisabled hclipboard
  | true =>
      cases hselection : session.selection with
      | none =>
          simp only [perform_paste, paste_eq_ite, hclipboard, hselection]
          exact .pasteNowhere hclipboard hselection
      | some selection =>
          simp only [perform_paste, paste_of_selection hclipboard hselection]
          exact .paste hclipboard hselection

theorem step_copy (session : Session) :
    session.Step .copy (session.perform .copy).1 (session.perform .copy).2 := by
  cases hclipboard : session.options.clipboardEnabled with
  | false =>
      simp only [perform_copy, copy, hclipboard]
      exact .copyDisabled hclipboard
  | true =>
      cases hselection : session.selection with
      | none =>
          simp only [perform_copy, copy, hclipboard, hselection]
          exact .copyNothing hclipboard hselection
      | some selection =>
          simp only [perform_copy, copy, hclipboard, hselection]
          exact .copy hclipboard hselection

theorem step_perform (session : Session) (operation : Operation) :
    session.Step operation (session.perform operation).1 (session.perform operation).2 := by
  cases operation with
  | select anchor focus => exact .select anchor focus
  | clearSelection => exact .clearSelection
  | apply command => exact session.step_apply command
  | ingest text => exact session.step_ingest text
  | paste text => exact session.step_paste text
  | copy => exact session.step_copy
  | reset => exact .reset

end MarkupEditor.Session
