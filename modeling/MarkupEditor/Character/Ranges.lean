/-!
# Character ranges

A character class is given by the closed ranges of its code points, in ascending order and without
overlap, so a search stops at the first range that starts beyond the character.
-/

namespace MarkupEditor.Character

/-- Closed ranges of code points in ascending order. -/
abbrev Ranges := List (Nat × Nat)

def Ranges.covers : Ranges → Nat → Bool
  | [], _ => false
  | (first, last) :: rest, n =>
    if n < first then false else decide (n ≤ last) || Ranges.covers rest n

end MarkupEditor.Character
