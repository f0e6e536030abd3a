import MarkupEditor.FileTree

/-!
# Hosts

Configuration and command line need a few services from the system they run on. They use them
through the class `Host` only, so the same code runs on the real system and on a `World`, which is a
value: variables, files and the warnings given so far.
-/

namespace MarkupEditor

class Host (m : Type → Type) where
  valueOf : Text → m (Option Text)
  /-- The home directory that the system itself knows for the user. -/
  accountHome? : m (Option Text)
  has : Text → m Bool
  read : Text → m (Except SystemError ByteArray)
  makeParents : Text → m (Except SystemError Unit)
  write : Text → ByteArray → m (Except SystemError Unit)
  warn : Text → m Unit

/-- A system as a value. -/
structure World where
  environment : List (Text × Text)
  accountHome? : Option Text
  files : FileTree
  warnings : List Text
deriving DecidableEq

namespace World

def changeFiles (change : FileTree → Except SystemError FileTree) (world : World) :
    Except SystemError Unit × World :=
  match change world.files with
  | .ok files => (.ok (), { world with files })
  | .error error => (.error error, world)

instance : Host (StateM World) where
  valueOf name := fun world => (world.environment.lookup name, world)
  accountHome? := fun world => (world.accountHome?, world)
  has path := fun world => (world.files.has path, world)
  read path := fun world => (world.files.read path, world)
  makeParents path := changeFiles fun files => files.makeParents path
  write path content := changeFiles fun files => files.write path content
  warn message := fun world => ((), { world with warnings := world.warnings ++ [message] })

end World

namespace Host

variable {m : Type → Type} [Monad m] [Host m]

/-- The home directory: the variable `HOME` unless it is missing or empty. -/
def home? : m (Option Text) := do
  match ← valueOf "HOME".toList with
  | some (c :: home) => return some (c :: home)
  | _ => accountHome?

def readText (path : Text) : m (Except SystemError Text) := do
  match ← read path with
  | .error error => return .error error
  | .ok content =>
    match String.fromUTF8? content with
    | some text => return .ok text.toList
    | none => return .error .invalidUtf8

def writeText (path : Text) (text : Text) : m (Except SystemError Unit) :=
  write path (String.ofList text).toUTF8

end Host

end MarkupEditor
