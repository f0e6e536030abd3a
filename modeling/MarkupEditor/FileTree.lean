import MarkupEditor.Path
import MarkupEditor.SystemError

/-!
# File trees

A file tree holds directories and files by their locations; the root is always a directory. Paths
are followed step by step from the root or from the working directory, and every step is taken
inside a directory that exists.
-/

namespace MarkupEditor

/-- The names that lead from the root to a place. -/
abbrev Location := List Text

inductive Entry where
  | directory
  | file (content : ByteArray)

/-- Two files are the same if they hold the same bytes. -/
instance : DecidableEq Entry
  | .directory, .directory => isTrue rfl
  | .directory, .file _ | .file _, .directory => isFalse nofun
  | .file content, .file other =>
    decidable_of_iff (content.data = other.data) (by simp [ByteArray.ext_iff])

structure FileTree where
  entries : List (Location × Entry)
  workingDirectory : Location
deriving DecidableEq

namespace FileTree

def entry? (tree : FileTree) (place : Location) : Option Entry :=
  if place = [] then some .directory else tree.entries.lookup place

def put (tree : FileTree) (place : Location) (entry : Entry) : FileTree :=
  let others := tree.entries.filter fun (other, _) => other != place
  { tree with entries := others ++ [(place, entry)] }

def origin (tree : FileTree) (path : Text) : Location :=
  if Path.isAbsolute path then [] else tree.workingDirectory

def enter (tree : FileTree) (place : Location) : Except SystemError Unit :=
  match tree.entry? place with
  | none => .error .notFound
  | some (.file _) => .error .notADirectory
  | some .directory => .ok ()

/-- Takes one step inside a directory. The directory above the root is the root. -/
def step (tree : FileTree) (place : Location) (name : Text) : Except SystemError Location := do
  tree.enter place
  return if Path.isIdle name then place else if name = Path.up then place.dropLast else place ++ [name]

/-- Follows steps from a location. What the last step leads to need not exist. -/
def walk (tree : FileTree) (place : Location) (names : List Text) : Except SystemError Location :=
  names.foldlM tree.step place

def checkPath (path : Text) : Except SystemError Unit :=
  if '\x00' ∈ path then .error .nulInPath else if path = [] then .error .notFound else .ok ()

def find (tree : FileTree) (path : Text) : Except SystemError Entry := do
  checkPath path
  let place ← tree.walk (tree.origin path) (Path.steps path)
  match tree.entry? place with
  | some entry => return entry
  | none => throw .notFound

def has (tree : FileTree) (path : Text) : Bool :=
  (tree.find path).isOk

def read (tree : FileTree) (path : Text) : Except SystemError ByteArray := do
  match ← tree.find path with
  | .file content => return content
  | .directory => throw .isADirectory

def makeDirectory (tree : FileTree) (origin : Location) (names : List Text) :
    Except SystemError FileTree := do
  match names.getLast? with
  | none => throw .alreadyExists
  | some name =>
    let parent ← tree.walk origin names.dropLast
    let place ← tree.step parent name
    if name = Path.up ∨ (tree.entry? place).isSome then throw .alreadyExists
    return tree.put place .directory

def isDirectory (tree : FileTree) (origin : Location) (names : List Text) : Bool :=
  match tree.walk origin names with
  | .ok place => tree.entry? place == some .directory
  | .error _ => false

/-- Makes the directory at the end of some steps, given from the last to the first, and those above
it that are missing. -/
def makeDirectories (tree : FileTree) (origin : Location) : List Text → Except SystemError FileTree
  | [] => .ok tree
  | name :: above =>
    let names := (name :: above).reverse
    match tree.makeDirectory origin names with
    | .ok tree => .ok tree
    | .error .notFound => do
      let tree ← tree.makeDirectories origin above
      match tree.makeDirectory origin names with
      | .ok tree => return tree
      | .error error => if tree.isDirectory origin names then return tree else throw error
    | .error error => if tree.isDirectory origin names then .ok tree else .error error

/-- Makes the directories above the file that a path names. -/
def makeParents (tree : FileTree) (path : Text) : Except SystemError FileTree :=
  let above := (Path.names path).dropLast
  if '\x00' ∈ above.flatten then .error .nulInPath
  else tree.makeDirectories (tree.origin path) above.reverse

/-- Writes a file, which may be new, into a directory that exists. A path that ends in a slash or in
a step to a directory names no file. -/
def write (tree : FileTree) (path : Text) (content : ByteArray) : Except SystemError FileTree := do
  checkPath path
  let reversed := (Path.steps path).reverse
  let names := (reversed.dropWhile List.isEmpty).reverse
  let parent ← tree.walk (tree.origin path) names.dropLast
  tree.enter parent
  match names.getLast? with
  | none => throw .isADirectory
  | some name =>
    if reversed.head? = some [] ∨ Path.isIdle name ∨ name = Path.up then throw .isADirectory
    let place := parent ++ [name]
    if tree.entry? place = some .directory then throw .isADirectory
    return tree.put place (.file content)

end FileTree

end MarkupEditor
