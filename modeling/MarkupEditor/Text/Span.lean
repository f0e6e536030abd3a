import MarkupEditor.Text

/-!
# Spans of a text

Callers name a span by two character offsets. The text is held in UTF-8, where characters differ in
width, so a span is cut at byte positions: `byteIndex` finds the byte at which a character starts,
and `takeBytes` and `dropBytes` cut there. An offset past the end stands for the end, and a span
whose end lies before its start is empty at its start.
-/

namespace MarkupEditor.Text

/-- The byte at which the character at `offset` starts, or the end of the text if there is none. -/
def byteIndex : Text → Nat → Nat
  | [], _ => 0
  | _ :: _, 0 => 0
  | c :: rest, offset + 1 => c.utf8Size + byteIndex rest offset

/-- The characters that start before byte `n`. -/
def takeBytes : Nat → Text → Text
  | _, [] => []
  | 0, _ :: _ => []
  | n + 1, c :: rest => c :: takeBytes (n + 1 - c.utf8Size) rest

/-- The characters that start at byte `n` or later. -/
def dropBytes : Nat → Text → Text
  | _, [] => []
  | 0, c :: rest => c :: rest
  | n + 1, c :: rest => dropBytes (n + 1 - c.utf8Size) rest

def byteSpan (text : Text) (start stop : Nat) : Nat × Nat :=
  let first := text.byteIndex start
  (first, max (text.byteIndex stop) first)

def slice (text : Text) (start stop : Nat) : Text :=
  let span := text.byteSpan start stop
  takeBytes (span.2 - span.1) (dropBytes span.1 text)

def splice (text : Text) (start stop : Nat) (value : Text) : Text :=
  let span := text.byteSpan start stop
  takeBytes span.1 text ++ value ++ dropBytes span.2 text

end MarkupEditor.Text
