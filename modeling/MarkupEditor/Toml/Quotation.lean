import MarkupEditor.Text

/-!
# TOML strings

A basic string stands between double quotes and knows escapes; a literal string stands between
single quotes and has none. Either may be tripled, and then runs over several lines: a line feed
right behind the opening quotes is dropped, and one or two quotes may stand before the closing ones.
In a basic string of several lines a backslash at the end of a line joins it to the next character
that is not blank. Control characters other than the tab are refused.

Each reader starts behind the opening quotes and returns the string and the text behind the closing
quotes.
-/

namespace MarkupEditor.Toml

def isPlain (c : Char) : Bool :=
  c == '\t' || (decide (' ' ≤ c) && c != '\x7f')

def codePoint? (digits : List Char) : Option Char := do
  let value (c : Char) : Option Nat :=
    if '0' ≤ c ∧ c ≤ '9' then some (c.toNat - '0'.toNat)
    else if 'a' ≤ c ∧ c ≤ 'f' then some (c.toNat - 'a'.toNat + 10)
    else if 'A' ≤ c ∧ c ≤ 'F' then some (c.toNat - 'A'.toNat + 10)
    else none
  let code := (← digits.mapM value).foldl (fun code digit => 16 * code + digit) 0
  if code.isValidChar then some (Char.ofNat code) else none

def escape? : Char → Option Char
  | 'b' => some '\x08'
  | 't' => some '\t'
  | 'n' => some '\n'
  | 'f' => some '\x0c'
  | 'r' => some '\r'
  | 'e' => some '\x1b'
  | '"' => some '"'
  | '\\' => some '\\'
  | _ => none

def push (c : Option Char) (tail : Option (Text × Text)) : Option (Text × Text) :=
  match c, tail with
  | some c, some (text, rest) => some (c :: text, rest)
  | _, _ => none

def readBasic : Text → Option (Text × Text)
  | [] => none
  | '"' :: rest => some ([], rest)
  | '\\' :: 'u' :: a :: b :: c :: d :: rest => push (codePoint? [a, b, c, d]) (readBasic rest)
  | '\\' :: 'U' :: a :: b :: c :: d :: e :: f :: g :: h :: rest =>
    push (codePoint? [a, b, c, d, e, f, g, h]) (readBasic rest)
  | '\\' :: 'x' :: a :: b :: rest => push (codePoint? [a, b]) (readBasic rest)
  | '\\' :: c :: rest => push (escape? c) (readBasic rest)
  | c :: rest => if isPlain c && c != '\\' then push (some c) (readBasic rest) else none

def readLiteral : Text → Option (Text × Text)
  | [] => none
  | '\'' :: rest => some ([], rest)
  | c :: rest => if isPlain c then push (some c) (readLiteral rest) else none

/-- Where the reader of a basic string of several lines stands. -/
inductive Joining where
  | no
  /-- Behind a backslash, before the end of its line. -/
  | lineEndDue
  /-- Behind the end of that line, among blanks. -/
  | blanks
deriving DecidableEq, Repr

def readLongBasic : Joining → Text → Option (Text × Text)
  | .lineEndDue, ' ' :: rest | .lineEndDue, '\t' :: rest => readLongBasic .lineEndDue rest
  | .lineEndDue, '\n' :: rest | .lineEndDue, '\r' :: '\n' :: rest => readLongBasic .blanks rest
  | .lineEndDue, _ => none
  | .blanks, ' ' :: rest | .blanks, '\t' :: rest | .blanks, '\n' :: rest
  | .blanks, '\r' :: '\n' :: rest => readLongBasic .blanks rest
  | _, [] => none
  | _, '"' :: '"' :: '"' :: '"' :: '"' :: rest => some (['"', '"'], rest)
  | _, '"' :: '"' :: '"' :: '"' :: rest => some (['"'], rest)
  | _, '"' :: '"' :: '"' :: rest => some ([], rest)
  | _, '\\' :: 'u' :: a :: b :: c :: d :: rest =>
    push (codePoint? [a, b, c, d]) (readLongBasic .no rest)
  | _, '\\' :: 'U' :: a :: b :: c :: d :: e :: f :: g :: h :: rest =>
    push (codePoint? [a, b, c, d, e, f, g, h]) (readLongBasic .no rest)
  | _, '\\' :: 'x' :: a :: b :: rest => push (codePoint? [a, b]) (readLongBasic .no rest)
  | _, '\\' :: c :: rest =>
    if c = ' ' ∨ c = '\t' ∨ c = '\n' ∨ c = '\r' then readLongBasic .lineEndDue (c :: rest)
    else push (escape? c) (readLongBasic .no rest)
  | _, '\n' :: rest | _, '\r' :: '\n' :: rest => push (some '\n') (readLongBasic .no rest)
  | _, c :: rest => if isPlain c && c != '\\' then push (some c) (readLongBasic .no rest) else none

def readLongLiteral : Text → Option (Text × Text)
  | [] => none
  | '\'' :: '\'' :: '\'' :: '\'' :: '\'' :: rest => some (['\'', '\''], rest)
  | '\'' :: '\'' :: '\'' :: '\'' :: rest => some (['\''], rest)
  | '\'' :: '\'' :: '\'' :: rest => some ([], rest)
  | '\n' :: rest | '\r' :: '\n' :: rest => push (some '\n') (readLongLiteral rest)
  | c :: rest => if isPlain c then push (some c) (readLongLiteral rest) else none

/-- Drops a line feed right behind the opening quotes. -/
def dropFirstBreak : Text → Text
  | '\n' :: rest | '\r' :: '\n' :: rest => rest
  | text => text

end MarkupEditor.Toml
