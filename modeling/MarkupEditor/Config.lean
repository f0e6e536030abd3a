import MarkupEditor.Host
import MarkupEditor.Options.Reading
import MarkupEditor.Path.Expansion
import MarkupEditor.Toml.Reader
import MarkupEditor.Toml.Writer

/-!
# Configuration files

Options are kept in the table `editor` of a TOML file. A file is loaded only if its options are
valid, and options are saved only if they are.
-/

namespace MarkupEditor

structure Config where
  editor : Options := {}
deriving DecidableEq, Repr

inductive ConfigError where
  | unreadable (path : Text) (cause : SystemError)
  /-- The file is no TOML document. -/
  | malformed (path : Text)
  /-- The document holds no options. -/
  | mistyped (path : Text) (cause : SettingError)
  | invalid (path : Text) (cause : OptionsError)
deriving DecidableEq, Repr

namespace ConfigError

def cause : ConfigError → Text
  | unreadable _ cause => cause.message
  | malformed _ => "TOML parse error".toList
  | mistyped _ cause =>
    "TOML parse error".toList ++ (cause.message?.map (": ".toList ++ ·)).getD []
  | invalid _ cause => cause.message

def message (error : ConfigError) : Text :=
  let opening := match error with
    | unreadable path _ => "Failed to read config file at ".toList ++ path
    | malformed path | mistyped path _ => "Failed to parse config file at ".toList ++ path
    | invalid path _ => "Invalid editor options in ".toList ++ path
  opening ++ ": ".toList ++ error.cause

end ConfigError

inductive SaveError where
  | invalid (cause : OptionsError)
  | unwritable (cause : SystemError)
deriving DecidableEq, Repr

def SaveError.message : SaveError → Text
  | invalid cause => cause.message
  | unwritable cause => cause.message

namespace Config

def editorKey : Text := "editor".toList

/-- Reads a configuration from a table. Other keys than `editor` are ignored. -/
def ofSetting : Setting → Except SettingError Config
  | .table entries => do
    match entries.lookup editorKey with
    | some setting => return ⟨← Options.ofSetting setting⟩
    | none => return {}
  | _ => .ok {}

/-- Reads and checks a configuration from the content of a file. The path is used in errors. -/
def parse (path content : Text) : Except ConfigError Config := do
  match Toml.read? content with
  | none => throw (.malformed path)
  | some setting =>
    let config ← (ofSetting setting).mapError (.mistyped path)
    config.editor.validate.mapError (.invalid path)
    return config

def document (config : Config) : Text :=
  Toml.writeHeader editorKey
    ++ Toml.writeBinding Options.commandsKey
      (Toml.writeStrings (config.editor.allowedCommands.map Command.name))
    ++ Toml.writeBinding Options.multilineKey
      (Toml.writeBoolean config.editor.allowMultilineCommit)
    ++ Toml.writeBinding Options.clipboardKey (Toml.writeBoolean config.editor.clipboardEnabled)

variable {m : Type → Type} [Monad m] [Host m]

def expandPath (path : Text) : m Text := do
  let values ← (Path.variableNames path).mapM fun name => do return (name, ← Host.valueOf name)
  return Path.expand (fun name => (values.lookup name).join) (← Host.home?) path

/-- Loads the configuration file at a path, which is expanded first. There may be no such file. -/
def loadFrom (path : Text) : ExceptT ConfigError m (Option Config) := do
  let path ← expandPath (m := m) path
  if ← Host.has (m := m) path then
    match ← Host.readText (m := m) path with
    | .error error => throw (.unreadable path error)
    | .ok content =>
      match parse path content with
      | .ok config => return some config
      | .error error => throw error
  else return none

def defaultPath : m Text :=
  expandPath "~/.config/textmarked/config.toml".toList

def load : ExceptT ConfigError m (Option Config) := do
  loadFrom (← defaultPath (m := m))

/-- Saves a configuration at a path, which is expanded first, and makes the directories above it. -/
def saveTo (config : Config) (path : Text) : ExceptT SaveError m Unit := do
  match config.editor.validate with
  | .error error => throw (.invalid error)
  | .ok () =>
    let path ← expandPath (m := m) path
    match ← Host.makeParents (m := m) path with
    | .error error => throw (.unwritable error)
    | .ok () =>
      match ← Host.writeText (m := m) path config.document with
      | .error error => throw (.unwritable error)
      | .ok () => return ()

end Config

end MarkupEditor
