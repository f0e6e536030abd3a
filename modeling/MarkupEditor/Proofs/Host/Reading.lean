import MarkupEditor.CommandLine.Run

/-!
# Actions that only read

Loading a configuration asks the system for variables and files and changes nothing. On a `World`
this means that the world behind the action is the one before it. Actions of this kind are closed
under sequencing, also when they may fail.
-/

namespace MarkupEditor

namespace World

variable {α β ε : Type}

/-- The action leaves every world as it is. -/
def Reads (action : StateM World α) : Prop :=
  ∀ world, (action world).2 = world

theorem Reads.eq {action : StateM World α} (haction : Reads action) (world : World) :
    action world = ((action world).1, world) := by
  have hworld := haction world
  calc
    action world = ((action world).1, (action world).2) := rfl
    _ = ((action world).1, world) := by rw [hworld]

theorem reads_pure (value : α) : Reads (pure value : StateM World α) := by
  intro world
  rfl

theorem Reads.bind {action : StateM World α} {next : α → StateM World β} (haction : Reads action)
    (hnext : ∀ value, Reads (next value)) : Reads (action >>= next) := by
  intro world
  have hrun : (action >>= next) world = next (action world).1 (action world).2 := rfl
  rw [hrun, haction world]
  exact hnext _ world

theorem reads_mapM {action : α → StateM World β} (haction : ∀ item, Reads (action item))
    (items : List α) : Reads (items.mapM action) := by
  induction items with
  | nil =>
      rw [List.mapM_nil]
      exact reads_pure []
  | cons item items ih =>
      rw [List.mapM_cons]
      apply (haction item).bind
      intro value
      apply ih.bind
      intro values
      exact reads_pure (value :: values)

/-- An action that may fail leaves every world as it is if both its parts do. -/
theorem Reads.bindExcept {action : ExceptT ε (StateM World) α}
    {next : α → ExceptT ε (StateM World) β} (haction : Reads action.run)
    (hnext : ∀ value, Reads (next value).run) : Reads (action >>= next).run := by
  rw [ExceptT.run_bind]
  apply haction.bind
  intro result
  cases result with
  | ok value => exact hnext value
  | error error => exact reads_pure (Except.error error)

theorem run_lift_bind (action : StateM World α) (next : α → ExceptT ε (StateM World) β)
    (world : World) :
    (ExceptT.lift action >>= next).run world = (next (action world).1).run (action world).2 :=
  rfl

theorem Reads.run_lift_bind {action : StateM World α} (haction : Reads action)
    (next : α → ExceptT ε (StateM World) β) (world : World) :
    (ExceptT.lift action >>= next).run world = (next (action world).1).run world := by
  rw [World.run_lift_bind, haction world]

/-- What comes behind an action that reads runs on the same world. -/
theorem Reads.run_bind {action : ExceptT ε (StateM World) α} (haction : Reads action.run)
    (next : α → ExceptT ε (StateM World) β) (world : World) :
    (action >>= next).run world =
      match (action.run world).1 with
      | .ok value => (next value).run world
      | .error error => (.error error, world) := by
  have hrun : (action >>= next).run world =
      (ExceptT.bindCont next (action.run world).1).run (action.run world).2 := rfl
  rw [hrun, haction world]
  cases (action.run world).1 with
  | ok value => rfl
  | error error => rfl

theorem Reads.lift {action : StateM World α} (haction : Reads action) :
    Reads (ExceptT.lift action : ExceptT ε (StateM World) α).run := by
  intro world
  exact haction world

theorem reads_throw (error : ε) : Reads (throw error : ExceptT ε (StateM World) α).run :=
  reads_pure (Except.error error)

theorem reads_return (value : α) : Reads (pure value : ExceptT ε (StateM World) α).run :=
  reads_pure (Except.ok value)

end World

open World

theorem Host.reads_readText (path : Text) :
    Reads (Host.readText path : StateM World (Except SystemError Text)) := by
  apply Reads.bind
  · intro world
    rfl
  · intro result
    cases result with
    | error error => exact reads_pure _
    | ok content =>
        intro world
        cases htext : String.fromUTF8? content with
        | none => simp only [htext]; rfl
        | some text => simp only [htext]; rfl

theorem Host.reads_home? : Reads (Host.home? : StateM World (Option Text)) := by
  apply Reads.bind
  · intro world
    rfl
  · intro value?
    match value? with
    | none => intro world; rfl
    | some [] => intro world; rfl
    | some (c :: home) => exact reads_pure _

namespace Config

theorem reads_expandPath (path : Text) : Reads (expandPath path : StateM World Text) := by
  apply Reads.bind
  · apply reads_mapM
    intro name world
    rfl
  · intro values
    apply Host.reads_home?.bind
    intro home?
    exact reads_pure _

theorem reads_loadFrom (path : Text) :
    Reads (loadFrom path : ExceptT ConfigError (StateM World) (Option Config)).run := by
  unfold loadFrom
  apply Reads.bindExcept
  · exact (reads_expandPath path).lift
  · intro path
    apply Reads.bindExcept
    · apply Reads.lift
      intro world
      rfl
    · intro present
      cases present with
      | false => exact reads_return none
      | true =>
          apply Reads.bindExcept
          · exact (Host.reads_readText path).lift
          · intro result
            cases result with
            | error error => exact reads_throw _
            | ok content =>
                cases hparse : parse path content with
                | error error => simp only [hparse]; exact reads_throw _
                | ok config => simp only [hparse]; exact reads_return _

theorem reads_load : Reads (load : ExceptT ConfigError (StateM World) (Option Config)).run := by
  apply Reads.bindExcept
  · exact (reads_expandPath _).lift
  · intro path
    exact reads_loadFrom path

end Config

namespace CommandLine

theorem reads_loadConfig (path? : Option Text) :
    Reads (loadConfig path? : ExceptT RunError (StateM World) Config).run := by
  cases path? with
  | none =>
      apply Reads.bindExcept
      · exact Config.reads_load.lift
      · intro result
        cases result with
        | error error => exact reads_throw _
        | ok config? => exact reads_return _
  | some path =>
      apply Reads.bindExcept
      · exact (Config.reads_loadFrom path).lift
      · intro result
        cases result with
        | error error => exact reads_throw _
        | ok config? =>
            cases config? with
            | none => exact reads_throw _
            | some config => exact reads_return _

end CommandLine

end MarkupEditor
