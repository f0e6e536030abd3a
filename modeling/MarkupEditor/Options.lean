import MarkupEditor.Command

/-!
# Options

The host decides which commands the editor offers, whether an edit may add lines, and whether the
clipboard may be used. An editor needs at least one command, and lists each once.
-/

namespace MarkupEditor

structure Options where
  /-- The commands offered, in toolbar order. -/
  allowedCommands : List Command := Command.all
  /-- Whether typed text may have more lines than the document. -/
  allowMultilineCommit : Bool := false
  /-- Whether text may be copied out and pasted in. -/
  clipboardEnabled : Bool := false
deriving DecidableEq, Repr

inductive OptionsError where
  | noCommands
  | duplicateCommand (command : Command)
deriving DecidableEq, Repr

def OptionsError.message : OptionsError → Text
  | noCommands => "No formatting commands configured".toList
  | duplicateCommand command => "Formatting command listed twice: ".toList ++ command.name

namespace Options

def allows (options : Options) (command : Command) : Bool :=
  options.allowedCommands.contains command

/-- The first command that also stands before it, when the commands in `seen` come first. -/
def firstRepeated (seen : List Command) : List Command → Option Command
  | [] => none
  | command :: rest =>
    if seen.contains command then some command else firstRepeated (seen ++ [command]) rest

def validate (options : Options) : Except OptionsError Unit :=
  if options.allowedCommands.isEmpty then .error .noCommands
  else match firstRepeated [] options.allowedCommands with
    | some command => .error (.duplicateCommand command)
    | none => .ok ()

end Options

end MarkupEditor
