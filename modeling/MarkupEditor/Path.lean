import MarkupEditor.Text

/-!
# Paths

A path is a text whose steps are separated by slashes. Empty steps and single dots lead nowhere, but
whoever takes them must stand in a directory, so `steps` keeps them. `names` leaves them out; it is
what the directories above a file are found by.
-/

namespace MarkupEditor.Path

def isAbsolute (path : Text) : Bool :=
  path.head? == some '/'

def steps (path : Text) : List Text :=
  path.splitOn '/'

def isIdle (step : Text) : Bool :=
  step == [] || step == ['.']

def names (path : Text) : List Text :=
  (steps path).filter fun step => !isIdle step

def up : Text := ['.', '.']

end MarkupEditor.Path
