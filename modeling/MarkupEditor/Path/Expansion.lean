import MarkupEditor.Character.Alphanumeric
import MarkupEditor.Text

/-!
# Path expansion

A path may name variables and the home directory of the user.

* `$NAME` and `${NAME}` stand for the value of a variable, and `${NAME:-DEFAULT}` for the default if
  there is no such variable. Values and defaults are taken as they are.
* Two dollar signs stand for one. A dollar sign that starts none of these stands for itself, and so
  does one before a brace that is never closed.
* A tilde at the very start, alone or before a slash, stands for the home directory, unless it came
  out of a variable.

If a variable without a default is missing, the whole path is left as given.
-/

namespace MarkupEditor.Path

open Character

inductive Piece where
  | character (c : Char)
  | value (name : Text) (default? : Option Text)
deriving DecidableEq, Repr

def isNameChar (c : Char) : Bool :=
  isAlphanumeric c || c == '_'

/-- The text before the first `:-` and the text behind it. -/
def splitDefault : Text → Option (Text × Text)
  | [] => none
  | ':' :: '-' :: default => some ([], default)
  | c :: rest => (splitDefault rest).map fun (name, default) => (c :: name, default)

/-- What stands between braces: a name, or a name with a default. Without a name the mark of a
default is itself part of the name. -/
def braced (inside : Text) : Piece :=
  match splitDefault inside with
  | some (c :: name, default) => .value (c :: name) (some default)
  | _ => .value inside none

inductive Reading where
  | plain
  | dollar
  /-- In a name, whose characters so far are kept in reverse. -/
  | name (read : Text)
  /-- Between braces, where the characters so far are kept in reverse. -/
  | braces (read : Text)
deriving DecidableEq, Repr

/-- Reads the rest of a path into pieces. -/
def piecesFrom : Reading → Text → List Piece
  | .plain, [] => []
  | .plain, c :: rest =>
    if c = '$' then piecesFrom .dollar rest else .character c :: piecesFrom .plain rest
  | .dollar, [] => [.character '$']
  | .dollar, c :: rest =>
    if c = '\x7b' ∧ '\x7d' ∈ rest then piecesFrom (.braces []) rest
    else if isNameChar c then piecesFrom (.name [c]) rest
    else if c = '$' then .character '$' :: piecesFrom .plain rest
    else .character '$' :: .character c :: piecesFrom .plain rest
  | .name read, [] => [.value read.reverse none]
  | .name read, c :: rest =>
    if isNameChar c then piecesFrom (.name (c :: read)) rest
    else if c = '$' then .value read.reverse none :: piecesFrom .dollar rest
    else .value read.reverse none :: .character c :: piecesFrom .plain rest
  | .braces _, [] => []
  | .braces read, c :: rest =>
    if c = '\x7d' then braced read.reverse :: piecesFrom .plain rest
    else piecesFrom (.braces (c :: read)) rest

def pieces (path : Text) : List Piece :=
  piecesFrom .plain path

def variableNames (path : Text) : List Text :=
  (pieces path).filterMap fun
    | .value name _ => some name
    | .character _ => none

/-- Replaces variables by their values, unless one is missing. -/
def fill (valueOf : Text → Option Text) : List Piece → Option Text
  | [] => some []
  | .character c :: rest => (fill valueOf rest).map (c :: ·)
  | .value name default? :: rest =>
    match valueOf name <|> default? with
    | some value => (fill valueOf rest).map (value ++ ·)
    | none => none

/-- Replaces a tilde at the start by the home directory, if there is one. -/
def expandHome (home? : Option Text) (path : Text) : Text :=
  match home?, path with
  | some home, ['~'] => home
  | some home, '~' :: '/' :: rest => home ++ '/' :: rest
  | _, _ => path

def expand (valueOf : Text → Option Text) (home? : Option Text) (path : Text) : Text :=
  match fill valueOf (pieces path) with
  | none => path
  | some filled =>
    if path.head? ≠ some '~' ∧ filled.head? = some '~' then filled else expandHome home? filled

end MarkupEditor.Path
