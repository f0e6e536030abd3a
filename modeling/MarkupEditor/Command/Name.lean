import MarkupEditor.Character.Lowercase
import MarkupEditor.Command

/-!
# Reading command names

A command is named freely: hyphens, underscores, spaces and letter case do not count.
-/

namespace MarkupEditor

structure UnknownCommand where
  name : Text
deriving DecidableEq, Repr

def UnknownCommand.message (error : UnknownCommand) : Text :=
  "Unknown format command: ".toList ++ error.name

namespace Text

/-- Whether two texts differ at most in the case of the letters `A` to `Z`. -/
def equalsIgnoringCase (left right : Text) : Bool :=
  left.map Char.toLower == right.map Char.toLower

end Text

namespace Command

def foldName (name : Text) : Text :=
  (name.filter fun c => !(c == '-' || c == '_' || c == ' ')).flatMap Character.lowercase

def plainName (command : Command) : Text :=
  command.name.filter (· != '-')

def parse (name : Text) : Except UnknownCommand Command :=
  match all.find? fun command => command.plainName.equalsIgnoringCase (foldName name) with
  | some command => .ok command
  | none => .error ⟨name⟩

end Command

end MarkupEditor
