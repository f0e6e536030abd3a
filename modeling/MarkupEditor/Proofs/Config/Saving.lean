import MarkupEditor.Proofs.Config.Loading
import MarkupEditor.Proofs.Toml.Reading

/-!
# Saving and loading back

Saving checks the options before it touches any file, and writes a table that loading reads back
with the same commands in the same order and the same flags. Loading in turn answers valid options
only, so what was loaded can be saved at any place that takes a file, and loads back from there.
-/

namespace MarkupEditor

/-! ### The written document -/

namespace Options

theorem readName_name (command : Command) : readName command.name = .ok command := by
  cases command <;> rfl

theorem quotable_name (command : Command) : Toml.Quotable command.name := by
  cases command <;> decide

theorem readCommands_names (commands : List Command) :
    readCommands (.list ((commands.map Command.name).map .string)) = .ok commands := by
  rw [readCommands, List.map_map]
  induction commands with
  | nil => rfl
  | cons command commands ih =>
      rw [List.map_cons, List.mapM_cons, ih]
      have hcommand : readCommand ((Setting.string ∘ Command.name) command) = .ok command :=
        readName_name command
      rw [hcommand]
      rfl

/-- The table of the options, with the names of the commands. -/
def entries (options : Options) : List (Text × Setting) :=
  [(commandsKey, .list ((options.allowedCommands.map Command.name).map .string)),
    (multilineKey, .boolean options.allowMultilineCommit),
    (clipboardKey, .boolean options.clipboardEnabled)]

theorem ofSetting_entries (options : Options) :
    ofSetting (.table options.entries) = .ok options := by
  have hcommands : options.entries.lookup commandsKey =
      some (.list ((options.allowedCommands.map Command.name).map .string)) := rfl
  have hmultiline : options.entries.lookup multilineKey =
      some (.boolean options.allowMultilineCommit) := rfl
  have hclipboard : options.entries.lookup clipboardKey =
      some (.boolean options.clipboardEnabled) := rfl
  rw [ofSetting, hcommands, hmultiline, hclipboard, readOr, readOr, readOr, readCommands_names]
  rfl

end Options

/-! ### Written files -/

theorem FileTree.has_of_read {tree : FileTree} {path : Text} {content : ByteArray}
    (hread : tree.read path = .ok content) : tree.has path = true := by
  obtain ⟨entry, hfind, -⟩ := bind_eq_ok_iff.mp hread
  rw [has, hfind]
  rfl

/-- The directories above the path can be made, and a file can be written there. -/
def World.Stores (world : World) (path : Text) : Prop :=
  ∃ parents, world.files.makeParents (world.expand path) = .ok parents ∧
    ∀ content, ∃ files, parents.write (world.expand path) content = .ok files

namespace Config

/-- The lines of the table that is written. -/
def bindings (config : Config) : List Toml.Binding :=
  [{  key := Options.commandsKey
      value := Toml.writeStrings (config.editor.allowedCommands.map Command.name)
      setting := .list ((config.editor.allowedCommands.map Command.name).map .string)
      bare := by decide
      written := Toml.written_writeStrings fun _ hname => by
        obtain ⟨command, -, rfl⟩ := List.mem_map.mp hname
        exact Options.quotable_name command },
    { key := Options.multilineKey
      value := Toml.writeBoolean config.editor.allowMultilineCommit
      setting := .boolean config.editor.allowMultilineCommit
      bare := by decide
      written := Toml.written_writeBoolean _ },
    { key := Options.clipboardKey
      value := Toml.writeBoolean config.editor.clipboardEnabled
      setting := .boolean config.editor.clipboardEnabled
      bare := by decide
      written := Toml.written_writeBoolean _ }]

theorem document_eq (config : Config) :
    config.document = Toml.writeHeader editorKey ++ config.bindings.flatMap Toml.Binding.text := by
  simp [document, bindings, Toml.Binding.text]

theorem read?_document (config : Config) :
    Toml.read? config.document = some (.table [(editorKey, .table config.editor.entries)]) := by
  have hkeys : (config.bindings.map Toml.Binding.key).Nodup := by
    have hmap : config.bindings.map Toml.Binding.key =
        [Options.commandsKey, Options.multilineKey, Options.clipboardKey] := rfl
    rw [hmap]
    decide
  rw [document_eq, Toml.read?_writeHeader (by decide) hkeys]
  rfl

section Loading

variable {config : Config} {path content : Text} {world : World}

theorem parse_eq_ok_iff :
    parse path content = .ok config ↔ ∃ setting, Toml.read? content = some setting ∧
      ofSetting setting = .ok config ∧ config.editor.validate = .ok () := by
  unfold parse
  cases Toml.read? content with
  | none => simp [throw_ne_ok]
  | some setting =>
      simp only [bind_eq_ok_iff, mapError_eq_ok_iff, Option.some.injEq, exists_eq_left']
      constructor
      · rintro ⟨read, hsetting, _, hvalid, hreturn⟩
        obtain rfl := Except.ok.inj hreturn
        exact ⟨hsetting, hvalid⟩
      · rintro ⟨hsetting, hvalid⟩
        exact ⟨config, hsetting, (), hvalid, rfl⟩

theorem parse_document (hvalid : config.editor.validate = .ok ()) :
    parse path config.document = .ok config := by
  have heditor : [(editorKey, Setting.table config.editor.entries)].lookup editorKey =
      some (.table config.editor.entries) := rfl
  refine parse_eq_ok_iff.mpr ⟨_, read?_document config, ?_, hvalid⟩
  rw [ofSetting, heditor]
  dsimp only
  rw [Options.ofSetting_entries]
  rfl

/-- A configuration is found where a file is that is read as this configuration. -/
theorem atPath_eq_ok_some_iff {files : FileTree} :
    atPath files path = .ok (some config) ↔
      ∃ content, files.readText path = .ok content ∧ parse path content = .ok config := by
  unfold atPath
  constructor
  · intro hfound
    split at hfound
    · cases hread : files.readText path with
      | error error => simp [hread] at hfound
      | ok content =>
          rw [hread] at hfound
          refine ⟨content, rfl, ?_⟩
          cases hparse : parse path content with
          | error error => simp [hparse, Except.map] at hfound
          | ok parsed => simpa [hparse, Except.map] using hfound
    · simp at hfound
  · rintro ⟨content, hread, hparse⟩
    have hhas := FileTree.has_of_read (FileTree.readText_eq_ok_iff.mp hread)
    rw [if_pos hhas, hread]
    dsimp only
    rw [hparse]
    rfl

theorem validate_of_loadFromOn (hload : (loadFromOn path world).1 = .ok (some config)) :
    config.editor.validate = .ok () := by
  rw [loadFromOn_eq] at hload
  obtain ⟨content, -, hparse⟩ := atPath_eq_ok_some_iff.mp hload
  obtain ⟨setting, -, -, hvalid⟩ := parse_eq_ok_iff.mp hparse
  exact hvalid

end Loading

/-! ### Saving -/

def saveOn (config : Config) (path : Text) (world : World) : Except SaveError Unit × World :=
  (saveTo config path : ExceptT SaveError (StateM World) Unit).run world

section Saving

variable {config : Config} {path : Text} {world : World}

theorem saveOn_of_invalid {cause : OptionsError}
    (hinvalid : config.editor.validate = .error cause) :
    saveOn config path world = (.error (.invalid cause), world) := by
  rw [saveOn, saveTo, hinvalid]
  rfl

theorem saveOn_of_valid (hvalid : config.editor.validate = .ok ()) :
    saveOn config path world =
      match world.files.makeParents (world.expand path) with
      | .error error => (.error (.unwritable error), world)
      | .ok parents =>
        match parents.write (world.expand path) (String.ofList config.document).toUTF8 with
        | .error error => (.error (.unwritable error), { world with files := parents })
        | .ok files => (.ok (), { world with files }) := by
  rw [saveOn, saveTo, hvalid]
  refine ((reads_expandPath path).run_lift_bind _ world).trans ?_
  rw [World.run_expandPath]
  have hparents : (Host.makeParents (world.expand path) : StateM World (Except SystemError Unit))
      world = World.changeFiles (fun files => files.makeParents (world.expand path)) world := rfl
  refine (World.run_lift_bind (Host.makeParents (world.expand path)) _ world).trans ?_
  rw [hparents, World.changeFiles]
  cases world.files.makeParents (world.expand path) with
  | error error => rfl
  | ok parents =>
      dsimp only
      have hwrite : (Host.writeText (world.expand path) config.document :
          StateM World (Except SystemError Unit)) { world with files := parents } =
            World.changeFiles (fun files => files.write (world.expand path)
              (String.ofList config.document).toUTF8) { world with files := parents } := rfl
      refine (World.run_lift_bind (Host.writeText (world.expand path) config.document) _
        { world with files := parents }).trans ?_
      rw [hwrite, World.changeFiles]
      cases parents.write (world.expand path) (String.ofList config.document).toUTF8 with
      | error error => rfl
      | ok files => rfl

theorem saveOn_eq_ok_iff {after : World} :
    saveOn config path world = (.ok (), after) ↔
      config.editor.validate = .ok () ∧
        ∃ parents files, world.files.makeParents (world.expand path) = .ok parents ∧
          parents.write (world.expand path) (String.ofList config.document).toUTF8 = .ok files ∧
            after = { world with files } := by
  cases hvalid : config.editor.validate with
  | error cause => simp [saveOn_of_invalid hvalid]
  | ok success =>
      rw [saveOn_of_valid hvalid]
      generalize (String.ofList config.document).toUTF8 = content
      cases world.files.makeParents (world.expand path) with
      | error error => simp
      | ok parents =>
          cases hwrite : parents.write (world.expand path) content with
          | error error => simp [hwrite]
          | ok files => simp [hwrite, eq_comm]

/-- A configuration that was saved is found where it was saved. -/
theorem loadFromOn_of_saveOn {after : World} (hsave : saveOn config path world = (.ok (), after)) :
    loadFromOn path after = (.ok (some config), after) := by
  obtain ⟨hvalid, parents, files, -, hwrite, rfl⟩ := saveOn_eq_ok_iff.mp hsave
  -- saving leaves the variables alone, so the path names the same place afterwards
  have hexpand : World.expand { world with files } path = world.expand path := rfl
  rw [loadFromOn_eq, hexpand]
  refine Prod.ext ?_ rfl
  exact atPath_eq_ok_some_iff.mpr
    ⟨config.document, FileTree.readText_of_write hwrite, parse_document hvalid⟩

theorem saveOn_ok_iff_of_stores (hstores : world.Stores path) :
    (saveOn config path world).1 = .ok () ↔ config.editor.validate = .ok () := by
  constructor
  · intro hsave
    exact (saveOn_eq_ok_iff.mp (Prod.ext hsave rfl)).1
  · intro hvalid
    obtain ⟨parents, hparents, hwrites⟩ := hstores
    obtain ⟨files, hwrite⟩ := hwrites (String.ofList config.document).toUTF8
    exact congrArg Prod.fst
      (saveOn_eq_ok_iff.mpr ⟨hvalid, parents, files, hparents, hwrite, rfl⟩)

/-- Wherever a file can be written, saving succeeds and loading gives the configuration back. -/
def LoadsBack (config : Config) : Prop :=
  ∀ path world, world.Stores path → (saveOn config path world).1 = .ok () ∧
    (loadFromOn path (saveOn config path world).2).1 = .ok (some config)

theorem loadsBack_of_valid (hvalid : config.editor.validate = .ok ()) : LoadsBack config := by
  intro path world hstores
  have hsave := (saveOn_ok_iff_of_stores hstores).mpr hvalid
  refine ⟨hsave, ?_⟩
  rw [loadFromOn_of_saveOn (Prod.ext hsave rfl)]

/-- **Saved configurations load back.** Where a file can be written, saving fails exactly if the
options are not valid, and then it leaves the world as it is. A configuration that was saved is loaded
from the same path as it was. Any configuration that is ever loaded has valid options, and so can be
saved wherever a file can be written, and loads back from there. -/
theorem saved_loads_back (config : Config) (path : Text) (world : World) :
    (world.Stores path →
      ((saveOn config path world).1 = .ok () ↔ config.editor.validate = .ok ())) ∧
    (∀ cause, config.editor.validate = .error cause →
      saveOn config path world = (.error (.invalid cause), world)) ∧
    ((saveOn config path world).1 = .ok () →
      (loadFromOn path (saveOn config path world).2).1 = .ok (some config)) ∧
    (∀ loaded, (loadFromOn path world).1 = .ok (some loaded) →
      loaded.editor.validate = .ok () ∧ LoadsBack loaded) := by
  refine ⟨saveOn_ok_iff_of_stores, fun _ => saveOn_of_invalid, ?_, ?_⟩
  · intro hsave
    rw [loadFromOn_of_saveOn (Prod.ext hsave rfl)]
  · intro loaded hload
    have hvalid := validate_of_loadFromOn hload
    exact ⟨hvalid, loadsBack_of_valid hvalid⟩

/-- A world without files. -/
def emptyWorld : World where
  environment := [("DIR".toList, "settings".toList)]
  accountHome? := none
  files := { entries := [], workingDirectory := [] }
  warnings := []

def listsOnly : Config :=
  ⟨{ allowedCommands := [.unorderedList, .orderedList], clipboardEnabled := true }⟩

theorem saved_loads_back_lists :
    let path := "$DIR/config.toml".toList
    let saved := (saveOn listsOnly path emptyWorld).2
    emptyWorld.Stores path ∧ (saveOn listsOnly path emptyWorld).1 = .ok () ∧
      (loadFromOn path saved).1 = .ok (some listsOnly) ∧ LoadsBack listsOnly ∧
        saveOn ⟨{ allowedCommands := [] }⟩ path saved = (.error (.invalid .noCommands), saved) := by
  intro path saved
  have hstores : emptyWorld.Stores path :=
    ⟨{ entries := [(["settings".toList], .directory)], workingDirectory := [] },
      by decide +kernel, fun content => ⟨_, rfl⟩⟩
  obtain ⟨hiff, -, hback, -⟩ := saved_loads_back listsOnly path emptyWorld
  have hsave := (hiff hstores).mpr (by decide)
  have hload := hback hsave
  obtain ⟨-, hinvalid, -, -⟩ := saved_loads_back ⟨{ allowedCommands := [] }⟩ path saved
  obtain ⟨-, -, -, hloaded⟩ := saved_loads_back listsOnly path saved
  exact ⟨hstores, hsave, hload, (hloaded listsOnly hload).2, hinvalid .noCommands rfl⟩

end Saving

end Config

end MarkupEditor
