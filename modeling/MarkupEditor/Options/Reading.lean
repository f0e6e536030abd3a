import MarkupEditor.Options
import MarkupEditor.Setting

/-!
# Reading options from a setting

Options are given as a table with one key for each, or as a list in the order of the record. What is
missing has its default and what is unknown is ignored. The keys of a table are met in alphabetical
order, so of several faults the one under the first key is reported.
-/

namespace MarkupEditor

/-- What is wanted where a value of another kind stands. -/
inductive Expected where
  | boolean
  | sequence
  | options
deriving DecidableEq, Repr

def Expected.text : Expected → Text
  | boolean => "a boolean".toList
  | sequence => "a sequence".toList
  | options => "struct EditorOptions".toList

inductive SettingError where
  | wrongKind (found : Text) (expected : Expected)
  | unknownCommand (name : Text)
  /-- A list entry that is neither the name of a command nor a tag. -/
  | noCommandName
deriving DecidableEq, Repr

namespace Command

/-- The spellings of a command in configurations: its name, and the name without hyphens. -/
def spellings (command : Command) : List Text :=
  let plain := command.name.filter (· != '-')
  if plain = command.name then [command.name] else [command.name, plain]

def ofSpelling? (name : Text) : Option Command :=
  all.find? fun command => command.spellings.contains name

end Command

namespace SettingError

def ticked (name : Text) : Text :=
  "`".toList ++ name ++ "`".toList

/-- The message, for those errors that have a wording of their own. -/
def message? : SettingError → Option Text
  | wrongKind found expected =>
    some ("invalid type: ".toList ++ found ++ ", expected ".toList ++ expected.text)
  | unknownCommand name =>
    let known := (Command.all.flatMap Command.spellings).map ticked
    some ("unknown variant ".toList ++ ticked name ++ ", expected one of ".toList
      ++ ", ".toList.intercalate known)
  | noCommandName => none

end SettingError

namespace Options

def readBoolean : Setting → Except SettingError Bool
  | .boolean value => .ok value
  | other => .error (.wrongKind other.describe .boolean)

def readName (name : Text) : Except SettingError Command :=
  match Command.ofSpelling? name with
  | some command => .ok command
  | none => .error (.unknownCommand name)

/-- Reads a list entry. A table of one key that holds nothing is a tag, and stands for its key. -/
def readCommand : Setting → Except SettingError Command
  | .string name => readName name
  | .table [(key, value)] => do
    let command ← readName key
    match value with
    | .list [] | .table [] => return command
    | _ => throw .noCommandName
  | _ => .error .noCommandName

def readCommands : Setting → Except SettingError (List Command)
  | .list items => items.mapM readCommand
  | other => .error (.wrongKind other.describe .sequence)

def readOr {α : Type} (default : α) (read : Setting → Except SettingError α) :
    Option Setting → Except SettingError α
  | some value => read value
  | none => .ok default

def commandsKey : Text := "allowed-commands".toList
def multilineKey : Text := "allow-multiline-commit".toList
def clipboardKey : Text := "clipboard-enabled".toList

def ofSetting : Setting → Except SettingError Options
  | .table entries => do
    let allowMultilineCommit ← readOr false readBoolean (entries.lookup multilineKey)
    let allowedCommands ← readOr Command.all readCommands (entries.lookup commandsKey)
    let clipboardEnabled ← readOr false readBoolean (entries.lookup clipboardKey)
    return { allowedCommands, allowMultilineCommit, clipboardEnabled }
  | .list items => do
    let allowedCommands ← readOr Command.all readCommands items[0]?
    let allowMultilineCommit ← readOr false readBoolean items[1]?
    let clipboardEnabled ← readOr false readBoolean items[2]?
    return { allowedCommands, allowMultilineCommit, clipboardEnabled }
  | .moment _ => .ok {}
  | other => .error (.wrongKind other.describe .options)

end Options

end MarkupEditor
