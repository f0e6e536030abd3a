import MarkupEditor.Proofs.Session.Edits

/-!
# What holds of every line

Lines come into a document with the texts that a host hands over and by commands. So a property of
lines that commands keep holds of all lines of a session as soon as it holds of the lines of those
texts. One step is looked at here, once for all such properties.
-/

namespace MarkupEditor

/-- The text that an operation brings into the document. -/
def Operation.given? : Operation → Option Text
  | .ingest text | .paste text => some text
  | .select _ _ | .clearSelection | .apply _ | .copy | .reset => none

/-- The property holds of the empty line, and commands write lines that have it if those that they
replace have it. -/
structure LineInvariant (holds : Text → Prop) : Prop where
  blank : holds []
  writes {command : Command} {multiline : Bool} {removed written : List Text} :
    command.Writes multiline removed written →
      (∀ text ∈ removed, holds text) → ∀ text ∈ written, holds text

/-- A property of lines outlives a step if the texts that the step is given and the documents that
its command makes have it. -/
theorem Session.forall_texts_of_step {holds : Text → Prop} {session next : Session}
    {operation : Operation} {reply : Reply} (hsound : session.Sound)
    (hstep : session.Step operation reply next) (hblank : holds [])
    (hgiven : ∀ given ∈ operation.given?, ∀ line ∈ given.lines, holds line)
    (hformat : ∀ command selection patch document, operation = .apply command →
      session.options.allows command = true → session.selection = some selection →
        session.document.format command selection = some (patch, document) →
          ∀ line ∈ document.texts, holds line)
    (htexts : ∀ line ∈ session.document.texts, holds line) :
    ∀ line ∈ next.document.texts, holds line := by
  cases hstep with
  | apply hallows hselection hmade => exact hformat _ _ _ _ rfl hallows hselection hmade
  | @ingest text hlines =>
      rw [texts_replace]
      exact hgiven text rfl
  | @paste text selection hclipboard hselection =>
      have hedited := Document.edited_insertLines hsound.wellFormed
        (Nat.min_le_right (selection.endLine + 1) _) (Text.lines_ne_nil text)
        fun _ => Text.newline_not_mem_of_mem_lines
      exact hedited.forall_texts htexts fun _ => hgiven text rfl
  | reset =>
      rw [reset, texts_replace]
      exact List.forall_mem_singleton.mpr hblank
  | select | clearSelection | unchanged | copy | ingestRefused | pasteDisabled | pasteNowhere
  | copyDisabled | copyNothing => exact htexts

namespace LineInvariant

variable {holds : Text → Prop} {session next : Session}

theorem forall_texts_of_step {operation : Operation} {reply : Reply}
    (hinvariant : LineInvariant holds) (hsound : session.Sound)
    (hstep : session.Step operation reply next)
    (hgiven : ∀ given ∈ operation.given?, ∀ line ∈ given.lines, holds line)
    (htexts : ∀ line ∈ session.document.texts, holds line) :
    ∀ line ∈ next.document.texts, holds line := by
  refine Session.forall_texts_of_step hsound hstep hinvariant.blank hgiven ?_ htexts
  intro command selection patch document _ _ hselection hformat
  obtain ⟨edit, hedited, hwrites⟩ := Document.exists_edit_of_format hsound.wellFormed
    (hsound.current selection hselection) hformat
  exact hedited.forall_texts htexts (hinvariant.writes hwrites)

theorem forall_texts_performAll (hinvariant : LineInvariant holds) (hsound : session.Sound)
    {operations : List Operation}
    (hgiven : ∀ given ∈ operations.filterMap Operation.given?, ∀ line ∈ given.lines, holds line)
    (htexts : ∀ line ∈ session.document.texts, holds line) :
    ∀ line ∈ (session.performAll operations).document.texts, holds line := by
  induction operations generalizing session with
  | nil => exact htexts
  | cons operation operations ih =>
      rw [List.forall_mem_filterMap, List.forall_mem_cons, ← List.forall_mem_filterMap] at hgiven
      have hstep := session.step_perform operation
      exact ih (Session.sound_of_step hsound hstep) hgiven.2
        (hinvariant.forall_texts_of_step hsound hstep hgiven.1 htexts)

/-- An invariant of lines holds throughout a session that is given only lines which have it. -/
theorem forall_texts_of_start (hinvariant : LineInvariant holds) (text : Text) (options : Options)
    {operations : List Operation}
    (hgiven : ∀ given ∈ text :: operations.filterMap Operation.given?,
      ∀ line ∈ given.lines, holds line) :
    ∀ line ∈ ((Session.start text options).performAll operations).document.texts, holds line := by
  obtain ⟨htext, hrest⟩ := List.forall_mem_cons.mp hgiven
  apply hinvariant.forall_texts_performAll (Session.sound_start text options) hrest
  intro line hline
  rw [Session.start, Document.ofText_eq_ofTexts, Document.texts_ofTexts] at hline
  exact htext line hline

end LineInvariant

/-- A character that no command writes stays out of the lines. -/
theorem lineInvariant_not_mem {c : Char} (hforeign : Command.Foreign c) :
    LineInvariant fun line => c ∉ line where
  blank := List.not_mem_nil
  writes hwrites hremoved := hwrites.not_mem hforeign hremoved

end MarkupEditor
