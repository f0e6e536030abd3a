import MarkupEditor.Proofs.CommandLine.InPlace

/-!
# Effects of a run

Loading the configuration and reading the file come before anything is written, so a run that fails
there leaves the world as it was. A run that is not in place writes no file at all. A run in place
writes one, the file that it has read: it overwrites it with the text that the same run would print,
and prints nothing.
-/

namespace MarkupEditor.CommandLine

/-- The same run, but for printing its text and leaving the file alone. -/
def Arguments.printing (arguments : Arguments) : Arguments :=
  { arguments with html := false, inPlace := false }

section Runs

variable {arguments : Arguments} {world : World} {session : Session}

theorem runOn_of_error {error : RunError} (hopened : opened? arguments world = .error error) :
    runOn arguments world = (.error error, world) := by
  rw [runOn_eq, hopened]

theorem runOn_of_opened (hopened : opened? arguments world = .ok session) :
    ∃ warnings, runOn arguments world =
      deliver arguments (edited arguments session).1 { world with warnings } := by
  refine ⟨world.warnings ++ (edited arguments session).2.toList, ?_⟩
  rw [runOn_eq, hopened]
  rfl

theorem deliver_of_not_inPlace (hinPlace : arguments.inPlace = false) :
    deliver arguments session world =
      (.ok (some (if arguments.html then session.render else session.text)), world) := by
  rw [deliver, hinPlace, if_neg Bool.false_ne_true]

/-- The session is opened on the text of a file, so there is one. -/
theorem exists_read_of_opened (hopened : opened? arguments world = .ok session) :
    ∃ content, world.files.read arguments.file = .ok content := by
  unfold opened? at hopened
  split at hopened
  · contradiction
  · rw [World.run_readText] at hopened
    cases htext : world.files.readText arguments.file with
    | error error => simp [htext] at hopened
    | ok text => exact ⟨_, FileTree.readText_eq_ok_iff.mp htext⟩

/-- What the run would print is the text that it has made of the file. -/
theorem runOn_printing (hopened : opened? arguments world = .ok session) :
    (runOn arguments.printing world).1 = .ok (some (edited arguments session).1.text) := by
  have hsame : opened? arguments.printing world = .ok session := hopened
  obtain ⟨warnings, hrun⟩ := runOn_of_opened hsame
  rw [hrun, deliver_of_not_inPlace rfl]
  rfl

theorem overwrites_of_runOn {output : Option Text} (hinPlace : arguments.inPlace = true)
    (hopened : opened? arguments world = .ok session)
    (hrun : (runOn arguments world).1 = .ok output) :
    output = none ∧ world.files.Overwrites (runOn arguments world).2.files arguments.file
      (String.ofList (edited arguments session).1.text).toUTF8 := by
  obtain ⟨old, hread⟩ := exists_read_of_opened hopened
  obtain ⟨warnings, hdeliver⟩ := runOn_of_opened hopened
  rw [hdeliver, deliver_of_inPlace hinPlace] at hrun ⊢
  dsimp only at hrun ⊢
  cases hwrite : world.files.write arguments.file
      (String.ofList (edited arguments session).1.text).toUTF8 with
  | error error =>
      rw [hwrite] at hrun
      contradiction
  | ok files =>
      rw [hwrite] at hrun
      exact ⟨(Except.ok.inj hrun).symm, FileTree.overwrites_of_write hread hwrite⟩

theorem files_of_not_inPlace (hinPlace : arguments.inPlace = false) :
    (runOn arguments world).2.files = world.files := by
  cases hopened : opened? arguments world with
  | error error => rw [runOn_of_error hopened]
  | ok session =>
      obtain ⟨warnings, hdeliver⟩ := runOn_of_opened hopened
      rw [hdeliver, deliver_of_not_inPlace hinPlace]

/-- Once the session is opened, only the write of a run in place can fail. -/
theorem error_of_opened {error : RunError} (hopened : opened? arguments world = .ok session)
    (hrun : (runOn arguments world).1 = .error error) :
    arguments.inPlace = true ∧ ∃ cause, error = .unwritable arguments.file cause := by
  obtain ⟨warnings, hdeliver⟩ := runOn_of_opened hopened
  rw [hdeliver] at hrun
  cases hinPlace : arguments.inPlace with
  | false =>
      rw [deliver_of_not_inPlace hinPlace] at hrun
      contradiction
  | true =>
      rw [deliver_of_inPlace hinPlace] at hrun
      dsimp only at hrun
      split at hrun
      · exact ⟨rfl, _, (Except.error.inj hrun).symm⟩
      · contradiction

end Runs

/-- **What a run may touch.** A run that fails before it writes leaves the world as it was, and only
the write of a run in place can fail after that. A run that is not in place leaves all files as they
were. A run in place that succeeds prints nothing and overwrites its file, and nothing else, with
the text that the same run would print. -/
theorem run_touches_only_its_file (arguments : Arguments) (world : World) :
    let result := (runOn arguments world).1
    let after := (runOn arguments world).2
    (∀ error, result = .error error →
      after = world ∨
        arguments.inPlace = true ∧ ∃ cause, error = .unwritable arguments.file cause) ∧
    (arguments.inPlace = false → after.files = world.files) ∧
    (arguments.inPlace = true → ∀ output, result = .ok output →
      output = none ∧ ∃ text, (runOn arguments.printing world).1 = .ok (some text) ∧
        world.files.Overwrites after.files arguments.file (String.ofList text).toUTF8) := by
  intro result after
  refine ⟨?_, files_of_not_inPlace, ?_⟩
  · intro error hresult
    cases hopened : opened? arguments world with
    | error _ =>
        left
        exact congrArg Prod.snd (runOn_of_error hopened)
    | ok session => exact Or.inr (error_of_opened hopened hresult)
  · intro hinPlace output hresult
    cases hopened : opened? arguments world with
    | error error =>
        have hfails : result = .error error := congrArg Prod.fst (runOn_of_error hopened)
        rw [hfails] at hresult
        contradiction
    | ok session =>
        obtain ⟨hnone, hoverwrites⟩ := overwrites_of_runOn hinPlace hopened hresult
        exact ⟨hnone, _, runOn_printing hopened, hoverwrites⟩

/-- A word is set in italics in place. That HTML was asked for makes no difference, and the
configuration stays as it was. -/
theorem run_touches_only_its_file_italic :
    let arguments : Arguments :=
      { boldInPlace with html := true, request := some ⟨.italic, ⟨0, 5⟩, ⟨0, 0⟩⟩ }
    let world := italicWorld "Hello\r\nworld".toList
    (runOn arguments world).1 = .ok none ∧
      (runOn arguments.printing world).1 = .ok (some "_Hello_\nworld".toList) ∧
      world.files.Overwrites (runOn arguments world).2.files "doc.md".toList
        "_Hello_\nworld".toUTF8 := by
  intro arguments world
  have hresult : (runOn arguments world).1 = .ok none := by decide +kernel
  have hprinting : (runOn arguments.printing world).1 = .ok (some "_Hello_\nworld".toList) := by
    decide +kernel
  obtain ⟨-, -, hinPlace⟩ := run_touches_only_its_file arguments world
  obtain ⟨-, text, htext, hoverwrites⟩ := hinPlace rfl none hresult
  obtain rfl : text = "_Hello_\nworld".toList :=
    Option.some.inj (Except.ok.inj (htext.symm.trans hprinting))
  exact ⟨hresult, hprinting, hoverwrites⟩

end MarkupEditor.CommandLine
