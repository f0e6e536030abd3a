import Mathlib.Control.Monad.Basic
import MarkupEditor.Proofs.CommandLine.Run
import MarkupEditor.Proofs.Session.Selection

/-!
# What a warning means

A run warns when its request has no effect, and the two warnings tell the two reasons apart: nothing
is selected between the endpoints, or the options do not offer the command. A selection that has been
captured is current, so there is no third reason.
-/

namespace MarkupEditor.CommandLine

theorem exists_name_eq_cons (command : Command) :
    ∃ initial rest, command.name = initial :: rest ∧ initial ≠ 'N' := by
  cases command <;> exact ⟨_, _, rfl, by decide⟩

theorem notEnabledWarning_ne_noSelectionWarning (request : Request) :
    notEnabledWarning request ≠ noSelectionWarning request := by
  obtain ⟨initial, rest, hname, hinitial⟩ := exists_name_eq_cons request.command
  intro heq
  have hhead : (noSelectionWarning request).head? = some 'N' := rfl
  rw [← heq, notEnabledWarning, hname] at hhead
  exact hinitial (Option.some.inj hhead)

/-- A request is answered with the warning about a command that is not offered if and only if there
is something to select and the command is not offered. -/
theorem edit_warning_iff (session : Session) (request : Request) :
    (edit session request).2 = some (notEnabledWarning request) ↔
      (session.document.select request.anchor request.focus).isSome = true ∧
        request.command ∉ session.options.allowedCommands := by
  have hcurrent : (session.select request.anchor request.focus).Current := by
    intro selection hselection
    exact Document.current_of_select hselection
  have happly := Session.apply_eq_none_iff hcurrent request.command
  have hsession : (session.select request.anchor request.focus).selection =
      session.document.select request.anchor request.focus := rfl
  have hoptions : (session.select request.anchor request.focus).options = session.options := rfl
  rw [hsession, hoptions] at happly
  simp only [edit, hsession, Session.run_applyM_eq_apply]
  cases hselection : session.document.select request.anchor request.focus with
  | none =>
      have hwarning := (notEnabledWarning_ne_noSelectionWarning request).symm
      simp [hwarning]
  | some selection =>
      have hnone : (session.select request.anchor request.focus).apply request.command = none ↔
          request.command ∉ session.options.allowedCommands := by
        simpa [hselection] using happly
      rw [← hnone]
      cases (session.select request.anchor request.focus).apply request.command with
      | none => simp
      | some result =>
          obtain ⟨patch, edited⟩ := result
          simp

theorem warnings_runOn (arguments : Arguments) (world : World) :
    (runOn arguments world).2.warnings = world.warnings ++
      match opened? arguments world with
      | .error _ => []
      | .ok session => (edited arguments session).2.toList := by
  rw [runOn_eq]
  cases opened? arguments world with
  | error error => simp
  | ok session => exact warnings_deliver _ _ _

/-- A run with a request warns that the command is not offered if and only if it gets as far as the
request, there is something to select, and the options do not offer the command. -/
theorem notEnabledWarning_mem_iff {arguments : Arguments} {request : Request}
    (hrequest : arguments.request = some request) (world : World) :
    ∃ given, (runOn arguments world).2.warnings = world.warnings ++ given ∧
      (notEnabledWarning request ∈ given ↔
        ∃ session, opened? arguments world = .ok session ∧
          (session.document.select request.anchor request.focus).isSome = true ∧
            request.command ∉ session.options.allowedCommands) := by
  refine ⟨_, warnings_runOn arguments world, ?_⟩
  cases hopened : opened? arguments world with
  | error error => simp
  | ok session =>
      have hwarning := edit_warning_iff session request
      have hedited : edited arguments session = edit session request := by
        simp only [edited, hrequest]
      rw [← Option.mem_toList, ← hedited] at hwarning
      simpa using hwarning

/-- **Captured selections are never stale.** Whatever is done with a session, a selection it has
captured is current on its document, so no command finds it beyond the end. A command then has no
effect only if it is not allowed or nothing is selected, and a run that warns that a command is not
offered says the truth. -/
theorem captured_selection_current (text : Text) (options : Options)
    (operations : List Operation) :
    let session := (Session.start text options).performAll operations
    (∀ selection, session.selection = some selection →
      selection.Current session.document ∧
        ∀ command, (session.document.format command selection).isSome = true) ∧
    (∀ command, session.apply command = none ↔
      command ∉ session.options.allowedCommands ∨ session.selection = none) ∧
    ∀ (arguments : Arguments) (request : Request) (world : World),
      arguments.request = some request →
        ∃ given, (runOn arguments world).2.warnings = world.warnings ++ given ∧
          (notEnabledWarning request ∈ given ↔
            ∃ opened, opened? arguments world = .ok opened ∧
              (opened.document.select request.anchor request.focus).isSome = true ∧
                request.command ∉ opened.options.allowedCommands) := by
  intro session
  have hcurrent : session.Current := Session.current_of_start text options operations
  refine ⟨?_, ?_, ?_⟩
  · intro selection hselection
    have hselected := hcurrent selection hselection
    refine ⟨hselected, ?_⟩
    intro command
    obtain ⟨patch, next, hformat⟩ :=
      Document.exists_format command hselected.startLine_le hselected.endLine_lt
    rw [hformat]
    rfl
  · exact Session.apply_eq_none_iff hcurrent
  · intro arguments request world hrequest
    exact notEnabledWarning_mem_iff hrequest world

/-- A world with a text in a file and a configuration that offers the italic command only. -/
def italicWorld (text : Text) : World where
  environment := []
  accountHome? := none
  files :=
    { entries := [(["doc.md".toList], .file (String.ofList text).toUTF8),
        (["config.toml".toList], .file "[editor]\nallowed-commands = [\"Italic\"]\n".toUTF8)]
      workingDirectory := [] }
  warnings := []

def boldRequest : Request where
  command := .bold
  anchor := ⟨0, 0⟩
  focus := ⟨0, 1⟩

def boldInPlace : Arguments where
  config := some "config.toml".toList
  html := false
  inPlace := true
  file := "doc.md".toList
  request := some boldRequest

/-- A selection is current behind a paste below it, and a run warns that its command is not offered,
as there is something to select. -/
theorem captured_selection_current_behind_paste :
    let opened := Session.start "Hello".toList { clipboardEnabled := true }
    let session := opened.performAll [.select ⟨0, 0⟩ ⟨0, 3⟩, .paste "c".toList]
    let selection : Selection := ⟨0, 0, 0, 3, [⟨0, "Hello".toList⟩], "Hel".toList⟩
    session.text = "Hello\nc".toList ∧ session.selection = some selection ∧
      selection.Current session.document ∧ session.apply .bold ≠ none ∧
      notEnabledWarning boldRequest ∈
        (runOn boldInPlace (italicWorld "Hello".toList)).2.warnings := by
  intro opened session selection
  have hselection : session.selection = some selection := by decide
  obtain ⟨hcurrent, happly, hwarns⟩ := captured_selection_current "Hello".toList
    { clipboardEnabled := true } [.select ⟨0, 0⟩ ⟨0, 3⟩, .paste "c".toList]
  obtain ⟨given, hgiven, hmem⟩ := hwarns boldInPlace boldRequest (italicWorld "Hello".toList) rfl
  have hopened : opened? boldInPlace (italicWorld "Hello".toList) =
      .ok (Session.start "Hello".toList { allowedCommands := [.italic] }) := by decide +kernel
  have hwarning : notEnabledWarning boldRequest ∈ given :=
    hmem.mpr ⟨_, hopened, by decide, by decide⟩
  refine ⟨by decide, hselection, (hcurrent selection hselection).1, ?_, ?_⟩
  · rw [Ne, happly .bold]
    decide
  · rw [hgiven]
    exact List.mem_append_right _ hwarning

end MarkupEditor.CommandLine
