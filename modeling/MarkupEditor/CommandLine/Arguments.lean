import MarkupEditor.Command.Name
import MarkupEditor.Position

/-!
# Command-line arguments

A run names a file and may name a command with the two endpoints of its selection. Options may stand
anywhere among these; what starts with two hyphens is an option, except behind `--config`, which
takes the next argument as it is.
-/

namespace MarkupEditor.CommandLine

structure Request where
  command : Command
  anchor : Position
  focus : Position
deriving DecidableEq, Repr

structure Arguments where
  config : Option Text
  html : Bool
  inPlace : Bool
  file : Text
  request : Option Request
deriving DecidableEq, Repr

inductive UsageError where
  | missingConfigPath
  | unknownOption (option : Text)
  /-- There is neither one positional argument nor four. -/
  | wrongCount
  | unknownCommand (error : UnknownCommand)
  | badPosition (error : PositionError)
  | nothingToApply
deriving DecidableEq, Repr

def UsageError.message : UsageError → Text
  | missingConfigPath => "--config needs a path".toList
  | unknownOption option => "Unknown option ".toList ++ option
  | wrongCount => "Expected a file, optionally followed by <command> <anchor> <focus>".toList
  | unknownCommand error => error.message
  | badPosition error => error.message
  | nothingToApply => "--in-place needs a command to apply".toList

structure Sorted where
  config : Option Text := none
  html : Bool := false
  inPlace : Bool := false
  positional : List Text := []
deriving DecidableEq, Repr

def isOption : Text → Bool
  | '-' :: '-' :: _ => true
  | _ => false

/-- Sorts arguments from left to right. A later `--config` replaces an earlier one. -/
def sort (sorted : Sorted) : List Text → Except UsageError Sorted
  | [] => .ok sorted
  | argument :: rest =>
    if argument = "--config".toList then
      match rest with
      | [] => .error .missingConfigPath
      | path :: rest => sort { sorted with config := some path } rest
    else if argument = "--html".toList then sort { sorted with html := true } rest
    else if argument = "--in-place".toList then sort { sorted with inPlace := true } rest
    else if isOption argument then .error (.unknownOption argument)
    else sort { sorted with positional := sorted.positional ++ [argument] } rest

/-- Reads the positional arguments: a file, and perhaps a request. The command is read first, then
the anchor, then the focus. -/
def readPositional : List Text → Except UsageError (Text × Option Request)
  | [file] => .ok (file, none)
  | [file, command, anchor, focus] => do
    let command ← (Command.parse command).mapError .unknownCommand
    let anchor ← (Position.parse anchor).mapError .badPosition
    let focus ← (Position.parse focus).mapError .badPosition
    return (file, some ⟨command, anchor, focus⟩)
  | _ => .error .wrongCount

def parse (arguments : List Text) : Except UsageError Arguments := do
  let sorted ← sort {} arguments
  let (file, request) ← readPositional sorted.positional
  if sorted.inPlace && request.isNone then throw .nothingToApply
  return { config := sorted.config, html := sorted.html, inPlace := sorted.inPlace, file, request }

end MarkupEditor.CommandLine
