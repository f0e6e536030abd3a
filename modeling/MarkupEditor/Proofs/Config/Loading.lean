import Mathlib.Control.Monad.Basic
import MarkupEditor.Proofs.FileTree.Writing
import MarkupEditor.Proofs.Host.Reading
import MarkupEditor.Proofs.Path.Expansion

/-!
# Loading a configuration

What loading answers is a function of the files and of one path: nothing if nothing is there, and
otherwise what the file holds or why it cannot be used. The path is the given one, expanded. The
usual place is expanded as well before it is loaded from, and so is expanded twice; that is the same
place as long as the home directory has no dollar sign and no tilde to expand.
-/

namespace MarkupEditor

namespace World

def home? (world : World) : Option Text :=
  match world.environment.lookup "HOME".toList with
  | some (c :: home) => some (c :: home)
  | _ => world.accountHome?

def expand (world : World) (path : Text) : Text :=
  Path.expand (fun name => world.environment.lookup name) world.home? path

theorem run_bind {α β : Type} (action : StateM World α) (next : α → StateM World β)
    (world : World) :
    (action >>= next) world = next (action world).1 (action world).2 :=
  rfl

theorem run_home? (world : World) :
    (Host.home? : StateM World (Option Text)) world = (world.home?, world) := by
  have hrun : (Host.home? : StateM World (Option Text)) world =
      (match world.environment.lookup "HOME".toList with
        | some (c :: home) => pure (some (c :: home))
        | _ => Host.accountHome? : StateM World (Option Text)) world := rfl
  rw [hrun, home?]
  match world.environment.lookup "HOME".toList with
  | none => rfl
  | some [] => rfl
  | some (c :: home) => rfl

/-- The variables that are asked for, with their values. -/
theorem run_values (names : List Text) (world : World) :
    (names.mapM fun name => do return (name, ← Host.valueOf name) :
      StateM World (List (Text × Option Text))) world =
        (names.map fun name => (name, world.environment.lookup name), world) := by
  induction names with
  | nil => rfl
  | cons name names ih =>
      have hrun : ((name :: names).mapM fun name => do return (name, ← Host.valueOf name) :
          StateM World (List (Text × Option Text))) world =
            (let (values, next) := (names.mapM fun name => do return (name, ← Host.valueOf name) :
              StateM World (List (Text × Option Text))) world
            ((name, world.environment.lookup name) :: values, next)) := by
        rw [List.mapM_cons]
        rfl
      rw [hrun, ih, List.map_cons]

theorem lookup_map_of_mem {values : Text → Option Text} {names : List Text} {name : Text}
    (hmem : name ∈ names) :
    (names.map fun name => (name, values name)).lookup name = some (values name) := by
  induction names with
  | nil => contradiction
  | cons first names ih =>
      rw [List.map_cons, List.lookup_cons]
      by_cases hname : name = first
      · simp [hname]
      · have hne : (name == first) = false := by simpa using hname
        rw [hne]
        exact ih ((List.mem_cons.mp hmem).resolve_left hname)

theorem run_expandPath (path : Text) (world : World) :
    (Config.expandPath path : StateM World Text) world = (world.expand path, world) := by
  have hvalues := run_values (Path.variableNames path) world
  have hhome := run_home? world
  have hrun : (Config.expandPath path : StateM World Text) world =
      (let (values, next) := ((Path.variableNames path).mapM fun name => do
          return (name, ← Host.valueOf name) : StateM World (List (Text × Option Text))) world
      let (home?, last) := (Host.home? : StateM World (Option Text)) next
      (Path.expand (fun name => (values.lookup name).join) home? path, last)) := rfl
  rw [hrun, hvalues]
  dsimp only
  rw [hhome]
  refine Prod.ext (Path.expand_congr fun name hname => ?_) rfl
  rw [lookup_map_of_mem hname, Option.join_some]

theorem run_readText (path : Text) (world : World) :
    (Host.readText path : StateM World (Except SystemError Text)) world =
      (world.files.readText path, world) := by
  have hread : (Host.read path : StateM World (Except SystemError ByteArray)) world =
      (world.files.read path, world) := rfl
  refine (run_bind (Host.read path) _ world).trans ?_
  rw [hread, FileTree.readText]
  cases world.files.read path with
  | error error => rfl
  | ok content =>
      dsimp only
      cases String.fromUTF8? content with
      | none => rfl
      | some text => rfl

end World

namespace Config

/-- What is found at a path: nothing if nothing is there, and otherwise the configuration of that
file or the reason why it has none. -/
def atPath (files : FileTree) (path : Text) : Except ConfigError (Option Config) :=
  if files.has path then
    match files.readText path with
    | .error error => .error (.unreadable path error)
    | .ok content => (parse path content).map some
  else .ok none

theorem atPath_eq_ok_none_iff {files : FileTree} {path : Text} :
    atPath files path = .ok none ↔ files.has path = false := by
  unfold atPath
  cases files.has path with
  | false => simp
  | true =>
      cases files.readText path with
      | error error => simp
      | ok content => cases hparse : parse path content <;> simp [hparse, Except.map]

def loadFromOn (path : Text) (world : World) : Except ConfigError (Option Config) × World :=
  (loadFrom path : ExceptT ConfigError (StateM World) (Option Config)).run world

def loadOn (world : World) : Except ConfigError (Option Config) × World :=
  (load : ExceptT ConfigError (StateM World) (Option Config)).run world

theorem loadFromOn_eq (path : Text) (world : World) :
    loadFromOn path world = (atPath world.files (world.expand path), world) := by
  have hhas : World.Reads (Host.has (world.expand path) : StateM World Bool) := fun _ => rfl
  refine ((reads_expandPath path).run_lift_bind _ world).trans ?_
  rw [World.run_expandPath]
  refine (hhas.run_lift_bind _ world).trans ?_
  have hpresent : ((Host.has (world.expand path) : StateM World Bool) world).1 =
      world.files.has (world.expand path) := rfl
  rw [hpresent, atPath]
  cases world.files.has (world.expand path) with
  | false => rfl
  | true =>
      refine ((Host.reads_readText (world.expand path)).run_lift_bind _ world).trans ?_
      rw [World.run_readText]
      cases world.files.readText (world.expand path) with
      | error error => rfl
      | ok content =>
          cases hparse : parse (world.expand path) content with
          | error error => simp only [hparse]; rfl
          | ok config => simp only [hparse]; rfl

/-! ### The usual place -/

/-- The usual place, where the home directory is known. -/
def defaultPathOn (world : World) : Text :=
  ((defaultPath : StateM World Text) world).1

def belowHome : Text := ".config/textmarked/config.toml".toList

/-- The home directory has no name of a variable in it and is not itself below a home directory. -/
def PlainHome (world : World) : Prop :=
  ∀ home, world.home? = some home → '$' ∉ home ∧ ¬['~', '/'] <+: home

section DefaultPath

variable {world : World} {home : Text}

theorem defaultPathOn_eq (world : World) :
    defaultPathOn world = world.expand ('~' :: '/' :: belowHome) := by
  have hrun := World.run_expandPath ('~' :: '/' :: belowHome) world
  exact congrArg Prod.fst hrun

theorem defaultPathOn_of_home (hhome : world.home? = some home) :
    defaultPathOn world = home ++ '/' :: belowHome := by
  rw [defaultPathOn_eq, World.expand, Path.expand_of_dollar_not_mem (by decide), hhome]
  rfl

theorem defaultPathOn_of_no_home (hhome : world.home? = none) :
    defaultPathOn world = '~' :: '/' :: belowHome := by
  rw [defaultPathOn_eq, World.expand, Path.expand_of_dollar_not_mem (by decide), hhome]
  rfl

theorem expand_defaultPathOn_eq_iff (hhome : world.home? = some home) (hdollar : '$' ∉ home) :
    world.expand (defaultPathOn world) = defaultPathOn world ↔ ¬['~', '/'] <+: home := by
  have hpath : '$' ∉ home ++ '/' :: belowHome := by
    rw [List.mem_append, not_or]
    exact ⟨hdollar, by decide⟩
  rw [defaultPathOn_of_home hhome, World.expand, Path.expand_of_dollar_not_mem hpath, hhome,
    Path.expandHome_append_eq_iff]

theorem PlainHome.expand_defaultPathOn (hplain : PlainHome world) :
    world.expand (defaultPathOn world) = defaultPathOn world := by
  cases hhome : world.home? with
  | none =>
      rw [defaultPathOn_of_no_home hhome, World.expand,
        Path.expand_of_dollar_not_mem (by decide), hhome]
      rfl
  | some home =>
      obtain ⟨hdollar, htilde⟩ := hplain home hhome
      exact (expand_defaultPathOn_eq_iff hhome hdollar).mpr htilde

theorem loadOn_eq (world : World) :
    loadOn world = (atPath world.files (world.expand (defaultPathOn world)), world) := by
  refine ((reads_expandPath _).run_lift_bind _ world).trans ?_
  exact loadFromOn_eq _ world

/-- **Loading from the usual place.** Loading expands the usual place once more and answers what is
there. Where the home directory has no dollar sign and no tilde to expand, that is the usual place
itself: loading answers nothing exactly if nothing is there, and otherwise what that file holds. -/
theorem load_at_defaultPath (world : World) :
    loadOn world = (atPath world.files (world.expand (defaultPathOn world)), world) ∧
    (PlainHome world →
      loadOn world = (atPath world.files (defaultPathOn world), world) ∧
        ((loadOn world).1 = .ok none ↔ world.files.has (defaultPathOn world) = false)) := by
  refine ⟨loadOn_eq world, fun hplain => ?_⟩
  have hload := loadOn_eq world
  rw [hplain.expand_defaultPathOn] at hload
  refine ⟨hload, ?_⟩
  rw [hload]
  exact atPath_eq_ok_none_iff

end DefaultPath

/-- A world with one file, below a directory of the working directory, that enables the
clipboard. -/
def clipboardWorld (environment : List (Text × Text)) (directory : Text) : World where
  environment := environment
  accountHome? := none
  files :=
    { entries := [([directory], .directory), ([directory, ".config".toList], .directory),
        ([directory, ".config".toList, "textmarked".toList], .directory),
        ([directory, ".config".toList, "textmarked".toList, "config.toml".toList],
          .file "[editor]\nclipboard-enabled = true\n".toUTF8)]
      workingDirectory := [] }
  warnings := []

theorem load_at_defaultPath_home :
    PlainHome (clipboardWorld [("HOME".toList, "me".toList)] "me".toList) ∧
      (loadOn (clipboardWorld [("HOME".toList, "me".toList)] "me".toList)).1 =
        .ok (some ⟨{ clipboardEnabled := true }⟩) := by
  have hplain : PlainHome (clipboardWorld [("HOME".toList, "me".toList)] "me".toList) := by
    intro home hhome
    have hme : home = "me".toList := (Option.some.inj hhome).symm
    rw [hme]
    decide
  refine ⟨hplain, ?_⟩
  rw [((load_at_defaultPath _).2 hplain).1]
  decide +kernel

/-- The name of this home directory reads like a variable. The file at the usual place is there, but
it is not what is loaded. -/
theorem load_misses_defaultPath :
    let world := clipboardWorld [("HOME".toList, "$X".toList), ("X".toList, "y".toList)] "$X".toList
    defaultPathOn world = "$X/.config/textmarked/config.toml".toList ∧
      atPath world.files (defaultPathOn world) = .ok (some ⟨{ clipboardEnabled := true }⟩) ∧
        (loadOn world).1 = .ok none := by
  decide +kernel

end Config

end MarkupEditor
