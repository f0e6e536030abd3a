import MarkupEditor.Proofs.CommandLine.Warnings
import MarkupEditor.Proofs.Config.Loading
import MarkupEditor.Proofs.Session.Reopening

/-!
# Runs in place without effect

A run in place writes the text of its session back, also if its request had no effect. What it
writes then is the text of the file with its line endings made line feeds, since opening the file
takes the carriage return of an ending away from the line. So such a run leaves a file alone exactly
if none of its lines ends in a carriage return.
-/

namespace MarkupEditor

namespace Text

/-- The text with a bare line feed for each line ending, and none at the end. -/
def normalized (text : Text) : Text :=
  unlines text.lines

theorem normalized_eq_self_iff {text : Text} :
    text.normalized = text ↔ ∀ piece ∈ text.splitOn '\n', ¬EndsInReturn piece := by
  have hjoined : unlines (text.splitOn '\n') = text := List.intercalate_splitOn '\n'
  have hpieces : (text.splitOn '\n').map dropReturn = text.splitOn '\n' ↔
      ∀ piece ∈ text.splitOn '\n', ¬EndsInReturn piece := map_dropReturn_eq_self_iff
  rw [← hpieces]
  constructor
  · intro hsame
    calc (text.splitOn '\n').map dropReturn
        = (unlines text.lines).splitOn '\n' :=
          (splitOn_unlines (lines_ne_nil text) fun _ hline =>
            newline_not_mem_of_mem_lines hline).symm
      _ = text.splitOn '\n' := by rw [← normalized, hsame]
  · intro hsame
    rw [normalized, lines, hsame, hjoined]

end Text

theorem Session.text_start (text : Text) (options : Options) :
    (start text options).text = text.normalized := by
  have htexts : (Document.ofText text).texts = text.lines := Line.map_text_enumerate text.lines
  rw [Session.text, start, Document.text, htexts, Text.normalized]

namespace CommandLine

/-- Nothing is selected between the endpoints, or the command is not offered. -/
def WithoutEffect (session : Session) (request : Request) : Prop :=
  session.document.select request.anchor request.focus = none ∨
    request.command ∉ session.options.allowedCommands

section Runs

variable {arguments : Arguments} {request : Request} {session : Session} {world : World}

/-- A request without effect captures a selection at most, and is answered with a warning. -/
theorem edit_of_withoutEffect (hrequest : WithoutEffect session request) :
    ∃ warning, (warning = noSelectionWarning request ∨ warning = notEnabledWarning request) ∧
      edit session request = (session.select request.anchor request.focus, some warning) := by
  have hselection : (session.select request.anchor request.focus).selection =
      session.document.select request.anchor request.focus := rfl
  cases hselect : session.document.select request.anchor request.focus with
  | none =>
      refine ⟨_, Or.inl rfl, ?_⟩
      simp [edit, hselection, hselect]
  | some selection =>
      have hcommand : request.command ∉ session.options.allowedCommands :=
        hrequest.resolve_left (by simp [hselect])
      have hcurrent : (session.select request.anchor request.focus).Current := fun _ hselected =>
        Document.current_of_select hselected
      have happly : (session.select request.anchor request.focus).apply request.command = none :=
        (Session.apply_eq_none_iff hcurrent request.command).mpr (Or.inl hcommand)
      refine ⟨_, Or.inr rfl, ?_⟩
      simp [edit, hselection, hselect, Session.run_applyM_eq_apply, happly]

def loadConfigOn (path? : Option Text) (world : World) : Except RunError Config × World :=
  (loadConfig path? : ExceptT RunError (StateM World) Config).run world

theorem opened?_eq_ok {text : Text} {config : Config}
    (hconfig : (loadConfigOn arguments.config world).1 = .ok config)
    (htext : world.files.readText arguments.file = .ok text) :
    opened? arguments world = .ok (Session.start text config.editor) := by
  rw [loadConfigOn] at hconfig
  rw [opened?, World.run_readText, hconfig, htext]

theorem deliver_of_inPlace (hinPlace : arguments.inPlace = true) :
    deliver arguments session world =
      match world.files.write arguments.file (String.ofList session.text).toUTF8 with
      | .error error => (.error (.unwritable arguments.file error), world)
      | .ok files => (.ok none, { world with files }) := by
  have hwrite : (Host.writeText arguments.file session.text :
      StateM World (Except SystemError Unit)) world = World.changeFiles
        (fun files => files.write arguments.file (String.ofList session.text).toUTF8) world := rfl
  rw [deliver, hinPlace, if_pos rfl, hwrite, World.changeFiles]
  cases world.files.write arguments.file (String.ofList session.text).toUTF8 with
  | error error => rfl
  | ok files => rfl

theorem runOn_of_withoutEffect {text : Text} {config : Config} {files : FileTree}
    (hinPlace : arguments.inPlace = true) (hrequest : arguments.request = some request)
    (hconfig : (loadConfigOn arguments.config world).1 = .ok config)
    (htext : world.files.readText arguments.file = .ok text)
    (heffect : WithoutEffect (Session.start text config.editor) request)
    (hwrite : world.files.write arguments.file (String.ofList text.normalized).toUTF8 = .ok files) :
    ∃ warning, (warning = noSelectionWarning request ∨ warning = notEnabledWarning request) ∧
      runOn arguments world =
        (.ok none, { world with files, warnings := world.warnings ++ [warning] }) := by
  obtain ⟨warning, hwarning, hedit⟩ := edit_of_withoutEffect heffect
  refine ⟨warning, hwarning, ?_⟩
  have htextAfter : ((Session.start text config.editor).select request.anchor request.focus).text =
      text.normalized := Session.text_start text config.editor
  rw [runOn_eq, opened?_eq_ok hconfig htext]
  dsimp only
  rw [conclude, edited, hrequest]
  dsimp only
  rw [hedit]
  dsimp only
  rw [deliver_of_inPlace hinPlace, htextAfter, hwrite]
  rfl

/-- **Runs in place without effect.** A run in place whose request has no effect warns of that. If
its write goes through, so does the run, and the file then holds its text with normalized line
endings. These are the bytes that it held before exactly if none of its lines ends in a carriage
return. -/
theorem file_behind_run_without_effect {text : Text} {config : Config} {files : FileTree}
    (hinPlace : arguments.inPlace = true) (hrequest : arguments.request = some request)
    (hconfig : (loadConfigOn arguments.config world).1 = .ok config)
    (htext : world.files.read arguments.file = .ok (String.ofList text).toUTF8)
    (heffect : WithoutEffect (Session.start text config.editor) request)
    (hwrite : world.files.write arguments.file (String.ofList text.normalized).toUTF8 = .ok files) :
    let result := (runOn arguments world).1
    let after := (runOn arguments world).2
    (∃ warning, (warning = noSelectionWarning request ∨ warning = notEnabledWarning request) ∧
      after.warnings = world.warnings ++ [warning]) ∧
    result = .ok none ∧
    after.files.read arguments.file = .ok (String.ofList text.normalized).toUTF8 ∧
    (after.files.read arguments.file = world.files.read arguments.file ↔
      ∀ piece ∈ text.splitOn '\n', ¬Text.EndsInReturn piece) := by
  obtain ⟨warning, hwarning, hrun⟩ := runOn_of_withoutEffect hinPlace hrequest hconfig
    (FileTree.readText_eq_ok_iff.mpr htext) heffect hwrite
  have hread := FileTree.read_of_write hwrite
  rw [hrun]
  refine ⟨⟨warning, hwarning, rfl⟩, rfl, hread, ?_⟩
  rw [hread, htext, ← Text.normalized_eq_self_iff, Except.ok.injEq, String.toUTF8_eq_toByteArray,
    String.toUTF8_eq_toByteArray, String.toByteArray_inj]
  exact ⟨fun hsame => String.ofList_injective hsame, fun hsame => congrArg String.ofList hsame⟩

end Runs

theorem file_behind_run_without_effect_hello :
    WithoutEffect (Session.start "Hello".toList { allowedCommands := [.italic] }) boldRequest ∧
      (∃ files, (italicWorld "Hello".toList).files.write boldInPlace.file
        (String.ofList (Text.normalized "Hello".toList)).toUTF8 = .ok files) ∧
      (runOn boldInPlace (italicWorld "Hello".toList)).1 = .ok none ∧
      (runOn boldInPlace (italicWorld "Hello".toList)).2.files.read "doc.md".toList =
        (italicWorld "Hello".toList).files.read "doc.md".toList := by
  have heffect : WithoutEffect (Session.start "Hello".toList { allowedCommands := [.italic] })
      boldRequest := Or.inr (by decide)
  have hconfig : (loadConfigOn boldInPlace.config (italicWorld "Hello".toList)).1 =
      .ok ⟨{ allowedCommands := [.italic] }⟩ := by decide +kernel
  have htext : (italicWorld "Hello".toList).files.read boldInPlace.file =
      .ok (String.ofList "Hello".toList).toUTF8 := by decide +kernel
  have hreturns : ∀ piece ∈ "Hello".toList.splitOn '\n', ¬Text.EndsInReturn piece := by decide
  obtain ⟨files, hwrite⟩ : ∃ files, (italicWorld "Hello".toList).files.write boldInPlace.file
      (String.ofList (Text.normalized "Hello".toList)).toUTF8 = .ok files := ⟨_, rfl⟩
  obtain ⟨-, hresult, -, hsame⟩ :=
    file_behind_run_without_effect rfl rfl hconfig htext heffect hwrite
  exact ⟨heffect, ⟨files, hwrite⟩, hresult, hsame.mpr hreturns⟩

/-- The command is not offered, and yet the run changes the file: its line endings lose their
carriage returns. -/
theorem not_file_unchanged :
    WithoutEffect (Session.start "a\r\nb".toList { allowedCommands := [.italic] }) boldRequest ∧
      (loadConfigOn boldInPlace.config (italicWorld "a\r\nb".toList)).1 =
        .ok ⟨{ allowedCommands := [.italic] }⟩ ∧
      (italicWorld "a\r\nb".toList).files.read "doc.md".toList = .ok "a\r\nb".toUTF8 ∧
      (runOn boldInPlace (italicWorld "a\r\nb".toList)).1 = .ok none ∧
      (runOn boldInPlace (italicWorld "a\r\nb".toList)).2.files.read "doc.md".toList =
        .ok "a\nb".toUTF8 ∧
      "a\nb".toUTF8 ≠ "a\r\nb".toUTF8 := by
  exact ⟨Or.inr (by decide), by decide +kernel, by decide +kernel, by decide +kernel,
    by decide +kernel, by decide +kernel⟩

end CommandLine

end MarkupEditor
