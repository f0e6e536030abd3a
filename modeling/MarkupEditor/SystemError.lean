import MarkupEditor.Text

/-!
# System errors

What can go wrong when a file is read or written, in the words of the system.
-/

namespace MarkupEditor

inductive SystemError where
  | notFound
  | alreadyExists
  | notADirectory
  | isADirectory
  /-- A file was to be read as text. -/
  | invalidUtf8
  /-- No path holds the character NUL. -/
  | nulInPath
  | other (description : Text)
deriving DecidableEq, Repr

def SystemError.message : SystemError → Text
  | notFound => "No such file or directory (os error 2)".toList
  | alreadyExists => "File exists (os error 17)".toList
  | notADirectory => "Not a directory (os error 20)".toList
  | isADirectory => "Is a directory (os error 21)".toList
  | invalidUtf8 => "stream did not contain valid UTF-8".toList
  | nulInPath => "file name contained an unexpected NUL byte".toList
  | other description => description

end MarkupEditor
