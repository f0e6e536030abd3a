import MarkupEditor.Text.Number
import MarkupEditor.Text.Quoted
import MarkupEditor.Character.Space

/-!
# Positions

A position is an endpoint of a selection as the host reports it: a line and a character offset in
it, both counted from zero. It is written `line:offset`, with white space allowed around both
numbers, and each number fits into 64 bits.
-/

namespace MarkupEditor

structure Position where
  line : Nat
  offset : Nat
deriving DecidableEq, Repr

/-- Why a text is no position. Each error carries the text it is about. -/
inductive PositionError where
  | missingSeparator (input : Text)
  | invalidNumber (input : Text) (cause : NumberError)
deriving DecidableEq, Repr

namespace PositionError

def message : PositionError → Text
  | missingSeparator input => "Expected <line>:<offset>, got ".toList ++ input.quoted
  | invalidNumber input cause =>
    "Invalid number in position ".toList ++ input.quoted ++ ": ".toList ++ cause.message

end PositionError

namespace Position

/-- The largest line and the largest offset that can be written. -/
def maxValue : Nat :=
  Nat.pow 2 64 - 1

/-- Reads a position. The first colon separates the numbers; the line is read before the offset. -/
def parse (input : Text) : Except PositionError Position :=
  match input.dropWhile (· != ':') with
  | [] => .error (.missingSeparator input)
  | _ :: offset => do
    let number (part : Text) : Except PositionError Nat :=
      (readNumber maxValue part.trim).mapError (.invalidNumber input)
    let line ← number (input.takeWhile (· != ':'))
    let offset ← number offset
    return ⟨line, offset⟩

end Position

end MarkupEditor
