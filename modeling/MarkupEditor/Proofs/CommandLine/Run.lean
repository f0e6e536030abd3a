import MarkupEditor.Proofs.Host.Reading

/-!
# Runs on a world

A run that finds its configuration and its file opens a session, and all it does from then on is
determined by that session. A run that does not find them leaves the world as it is.
-/

namespace MarkupEditor.CommandLine

open World

def runOn (arguments : Arguments) (world : World) : Except RunError (Option Text) × World :=
  (run arguments : ExceptT RunError (StateM World) (Option Text)).run world

/-- The session that a run opens, if it gets so far. -/
def opened? (arguments : Arguments) (world : World) : Except RunError Session :=
  match ((loadConfig arguments.config : ExceptT RunError (StateM World) Config).run world).1 with
  | .error error => .error error
  | .ok config =>
    match ((Host.readText arguments.file : StateM World (Except SystemError Text)) world).1 with
    | .error error => .error (.unreadable arguments.file error)
    | .ok text => .ok (Session.start text config.editor)

/-- What the request makes of the session, and the warning if it has no effect. -/
def edited (arguments : Arguments) (session : Session) : Session × Option Text :=
  match arguments.request with
  | some request => edit session request
  | none => (session, none)

def deliver (arguments : Arguments) (session : Session) (world : World) :
    Except RunError (Option Text) × World :=
  if arguments.inPlace then
    match (Host.writeText arguments.file session.text : StateM World (Except SystemError Unit))
      world with
    | (.error error, world) => (.error (.unwritable arguments.file error), world)
    | (.ok (), world) => (.ok none, world)
  else (.ok (some (if arguments.html then session.render else session.text)), world)

def conclude (arguments : Arguments) (session : Session) (world : World) :
    Except RunError (Option Text) × World :=
  let (session, warning?) := edited arguments session
  deliver arguments session { world with warnings := world.warnings ++ warning?.toList }

theorem run_deliver (arguments : Arguments) (session : Session) (world : World) :
    (do
      if arguments.inPlace then
        match ← (Host.writeText arguments.file session.text :
          StateM World (Except SystemError Unit)) with
        | .error error => throw (.unwritable arguments.file error)
        | .ok () => return none
      else return some (if arguments.html then session.render else session.text) :
        ExceptT RunError (StateM World) (Option Text)).run world =
      deliver arguments session world := by
  unfold deliver
  cases arguments.inPlace with
  | false => rfl
  | true =>
      refine (run_lift_bind (Host.writeText arguments.file session.text) _ world).trans ?_
      rcases (Host.writeText arguments.file session.text : StateM World (Except SystemError Unit))
        world with ⟨error | success, next⟩
      · rfl
      · rfl

theorem warnings_changeFiles (change : FileTree → Except SystemError FileTree) (world : World) :
    (changeFiles change world).2.warnings = world.warnings := by
  unfold changeFiles
  cases change world.files with
  | ok files => rfl
  | error error => rfl

theorem warnings_writeText (path text : Text) (world : World) :
    ((Host.writeText path text : StateM World (Except SystemError Unit)) world).2.warnings =
      world.warnings :=
  warnings_changeFiles _ world

theorem warnings_deliver (arguments : Arguments) (session : Session) (world : World) :
    (deliver arguments session world).2.warnings = world.warnings := by
  have hwarnings := warnings_writeText arguments.file session.text world
  unfold deliver
  cases arguments.inPlace with
  | false => rfl
  | true =>
      rcases hwrite : (Host.writeText arguments.file session.text :
        StateM World (Except SystemError Unit)) world with ⟨error | success, next⟩
      · rw [hwrite] at hwarnings
        exact hwarnings
      · rw [hwrite] at hwarnings
        exact hwarnings

theorem runOn_eq (arguments : Arguments) (world : World) :
    runOn arguments world =
      match opened? arguments world with
      | .error error => (.error error, world)
      | .ok session => conclude arguments session world := by
  have hload := reads_loadConfig arguments.config
  have hread := Host.reads_readText arguments.file
  refine (hload.run_bind _ world).trans ?_
  unfold opened?
  cases ((loadConfig arguments.config : ExceptT RunError (StateM World) Config).run world).1 with
  | error error => rfl
  | ok config =>
      refine (hread.run_lift_bind _ world).trans ?_
      cases ((Host.readText arguments.file : StateM World (Except SystemError Text)) world).1 with
      | error error => rfl
      | ok text =>
          dsimp only
          generalize Session.start text config.editor = opened
          unfold conclude edited
          cases arguments.request with
          | none =>
              have hwarnings : world.warnings ++ (none : Option Text).toList = world.warnings := by
                simp
              simp only [hwarnings]
              exact run_deliver arguments opened world
          | some request =>
              dsimp only
              obtain ⟨session, warning?⟩ := edit opened request
              cases warning? with
              | none =>
                  have hwarnings : world.warnings ++ (none : Option Text).toList =
                      world.warnings := by
                    simp
                  simp only [hwarnings]
                  exact run_deliver arguments session world
              | some warning => exact run_deliver arguments session _

end MarkupEditor.CommandLine
