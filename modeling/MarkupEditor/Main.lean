import MarkupEditor.CommandLine.Program

/-!
# Entry point

The real system as a host, and the program on it.
-/

namespace MarkupEditor

/-- A failure of the system, told by its number, which some services give negated. -/
def SystemError.ofCode (code : UInt32) (details : String) : SystemError :=
  let number := code.toInt32.toInt.natAbs
  match number with
  | 2 => .notFound
  | 17 => .alreadyExists
  | 20 => .notADirectory
  | 21 => .isADirectory
  | _ => .other (details ++ " (os error " ++ toString number ++ ")").toList

def SystemError.ofFailure : IO.Error → SystemError
  | .noFileOrDirectory _ code details => ofCode code details
  | .alreadyExists _ code details => ofCode code details
  | .inappropriateType _ code details => ofCode code details
  | .permissionDenied _ code details => ofCode code details
  | .resourceExhausted _ code details => ofCode code details
  | .invalidArgument _ code details => ofCode code details
  | .otherError code details => ofCode code details
  | failure => .other failure.toString.toList

def attempt {α : Type} (action : IO α) : IO (Except SystemError α) := do
  match ← action.toBaseIO with
  | .ok value => return .ok value
  | .error failure => return .error (.ofFailure failure)

def parentText (path : Text) : Text :=
  (if Path.isAbsolute path then ['/'] else []) ++ ['/'].intercalate (Path.names path).dropLast

instance : Host IO where
  valueOf name := do return (← IO.getEnv (String.ofList name)).map String.toList
  accountHome? := return none
  has path := do return (← attempt (IO.FS.realPath (String.ofList path))).isOk
  read path := attempt (IO.FS.readBinFile (String.ofList path))
  makeParents path := do
    let parent := parentText path
    if parent.isEmpty then return .ok ()
    attempt (IO.FS.createDirAll (String.ofList parent))
  write path content := attempt (IO.FS.writeBinFile (String.ofList path) content)
  warn message := IO.eprint (String.ofList (CommandLine.warningLine message))

end MarkupEditor

open MarkupEditor in
def main (arguments : List String) : IO UInt32 := do
  let outcome : CommandLine.Outcome ← CommandLine.invoke (arguments.map String.toList)
  IO.eprint (String.ofList outcome.errors)
  IO.print (String.ofList outcome.output)
  return UInt32.ofNat outcome.exit
