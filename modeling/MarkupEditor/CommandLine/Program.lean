import MarkupEditor.CommandLine.Run

/-!
# The program

The program parses its arguments and performs the run. Output goes to the standard output with a
line feed; errors go to the standard error output, and the exit status is then one.
-/

namespace MarkupEditor.CommandLine

/-- What the program leaves behind, warnings apart. -/
structure Outcome where
  exit : Nat
  output : Text
  errors : Text
deriving DecidableEq, Repr

def usage : Text :=
  ("Usage: textmarked [--config <path>] [--html] [--in-place] <file> "
    ++ "[<command> <line:offset> <line:offset>]").toList

def warningLine (warning : Text) : Text :=
  "[WARN textmarked] ".toList ++ warning ++ ['\n']

def usageReport (error : UsageError) : Text :=
  "Error: ".toList ++ error.message ++ '\n' :: usage ++ ['\n']

def runReport (error : RunError) : Text :=
  let cause := match error.cause? with
    | some cause => "\n\nCaused by:\n    ".toList ++ cause
    | none => []
  "Error: ".toList ++ error.message ++ cause ++ ['\n']

variable {m : Type → Type} [Monad m] [Host m]

def invoke (arguments : List Text) : m Outcome := do
  match parse arguments with
  | .error error => return ⟨1, [], usageReport error⟩
  | .ok arguments =>
    match ← (run arguments : ExceptT RunError m _).run with
    | .error error => return ⟨1, [], runReport error⟩
    | .ok none => return ⟨0, [], []⟩
    | .ok (some output) => return ⟨0, output ++ ['\n'], []⟩

end MarkupEditor.CommandLine
