import MarkupEditor.Character.Ranges
import MarkupEditor.Text

/-!
# White space

The characters with the Unicode property White_Space.
-/

namespace MarkupEditor.Character

def spaceRanges : Ranges :=
  [(0x9, 0xD), (0x20, 0x20), (0x85, 0x85), (0xA0, 0xA0), (0x1680, 0x1680), (0x2000, 0x200A),
   (0x2028, 0x2029), (0x202F, 0x202F), (0x205F, 0x205F), (0x3000, 0x3000)]

def isSpace (c : Char) : Bool :=
  spaceRanges.covers c.toNat

end MarkupEditor.Character

namespace MarkupEditor.Text

open Character

def trim (text : Text) : Text :=
  ((text.dropWhile isSpace).reverse.dropWhile isSpace).reverse

end MarkupEditor.Text
