/-!
# Text

A text is a list of characters, so every offset and every length counts characters. Lines are the
pieces between line feeds; a carriage return before a line feed, or at the very end, belongs to the
line ending and not to the line.
-/

namespace MarkupEditor

abbrev Text := List Char

namespace Text

/-- Drops one carriage return from the end. -/
def dropReturn (text : Text) : Text :=
  if text.getLast? = some '\r' then text.dropLast else text

/-- The lines of a text without their endings. A text without a line feed is one line. -/
def lines (text : Text) : List Text :=
  (text.splitOn '\n').map dropReturn

def unlines (lines : List Text) : Text :=
  ['\n'].intercalate lines

def ofNat (n : Nat) : Text :=
  Nat.toDigits 10 n

/-- The number of bytes of the text in UTF-8. -/
def byteLength : Text → Nat
  | [] => 0
  | c :: rest => c.utf8Size + byteLength rest

end Text

end MarkupEditor
