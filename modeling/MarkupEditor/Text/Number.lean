import MarkupEditor.Text

/-!
# Unsigned numbers

A number is written in the digits `0` to `9`, with one plus sign allowed before them and any number
of leading zeros. Reading goes from left to right and stops at the first fault: a character that is
no digit, or a digit that takes the value over the limit.
-/

namespace MarkupEditor

inductive NumberError where
  | empty
  | invalidDigit
  | tooLarge
deriving DecidableEq, Repr

namespace NumberError

def message : NumberError → Text
  | empty => "cannot parse integer from empty string".toList
  | invalidDigit => "invalid digit found in string".toList
  | tooLarge => "number too large to fit in target type".toList

end NumberError

def digit? (c : Char) : Option Nat :=
  if '0' ≤ c ∧ c ≤ '9' then some (c.toNat - '0'.toNat) else none

/-- Reads digits behind the digits of `value`. -/
def readDigits (limit : Nat) : Nat → Text → Except NumberError Nat
  | value, [] => .ok value
  | value, c :: rest =>
    match digit? c with
    | none => .error .invalidDigit
    | some digit =>
      let next := 10 * value + digit
      if next ≤ limit then readDigits limit next rest else .error .tooLarge

/-- Reads a number of at most `limit`. A sign alone is a bad digit. -/
def readNumber (limit : Nat) : Text → Except NumberError Nat
  | [] => .error .empty
  | '+' :: c :: rest => readDigits limit 0 (c :: rest)
  | text => readDigits limit 0 text

end MarkupEditor
