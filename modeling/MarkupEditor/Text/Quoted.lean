import MarkupEditor.Character.Extender
import MarkupEditor.Character.Printable
import MarkupEditor.Text

/-!
# Quoted text

A text is shown in messages between double quotes, in a form that can be read on one line: quotes
and backslashes are escaped, the common control characters have names, and every other character
that does not print, or that would attach to the one before it, is given by its code point in
hexadecimal.
-/

namespace MarkupEditor

open Character

def Character.escaped (c : Char) : Text :=
  match c with
  | '\x00' => "\\0".toList
  | '\t' => "\\t".toList
  | '\r' => "\\r".toList
  | '\n' => "\\n".toList
  | '\\' => "\\\\".toList
  | '"' => "\\\"".toList
  | c =>
    if isExtender c || !isPrintable c then
      "\\u\x7b".toList ++ Nat.toDigits 16 c.toNat ++ "\x7d".toList
    else [c]

def Text.quoted (text : Text) : Text :=
  '"' :: text.flatMap escaped ++ ['"']

end MarkupEditor
