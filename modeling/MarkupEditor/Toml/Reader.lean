import MarkupEditor.Toml.Quotation
import MarkupEditor.Toml.Scalar
import MarkupEditor.Toml.Table

/-!
# Reading TOML

A document is a sequence of lines, each empty, a comment, a header or a binding; a value may run over
several lines inside quotes, brackets or braces. Reading answers the table of the document, or
nothing if the document is malformed or binds a key twice.

Values nest, and so reading them takes a bound on the depth; the length of the text is always
enough, because each level takes a bracket or a brace.
-/

namespace MarkupEditor.Toml

def isBlank (c : Char) : Bool :=
  c == ' ' || c == '\t'

def dropBlanks (text : Text) : Text :=
  text.dropWhile isBlank

/-- Drops white space, line ends and comments from the front. The flag says whether the front lies
inside a comment. -/
def dropFiller : Bool → Text → Option Text
  | _, [] => some []
  | _, '\n' :: rest | _, '\r' :: '\n' :: rest => dropFiller false rest
  | true, c :: rest => if isPlain c then dropFiller true rest else none
  | false, '#' :: rest => dropFiller true rest
  | false, c :: rest => if isBlank c then dropFiller false rest else some (c :: rest)

def atLineEnd (text : Text) : Bool :=
  match dropBlanks text with
  | [] | '\n' :: _ | '\r' :: '\n' :: _ | '#' :: _ => true
  | _ => false

def isKeyChar (c : Char) : Bool :=
  c.isAlphanum || c == '-' || c == '_'

def readKey : Text → Option (Text × Text)
  | '"' :: rest => readBasic rest
  | '\'' :: rest => readLiteral rest
  | text =>
    let key := text.takeWhile isKeyChar
    if key.isEmpty then none else some (key, text.dropWhile isKeyChar)

/-- Reads a dotted key of at most so many parts: the parts before the last, and the last. -/
def readPath : Nat → Text → Option ((List Text × Text) × Text)
  | 0, _ => none
  | parts + 1, text => do
    let (key, rest) ← readKey (dropBlanks text)
    match dropBlanks rest with
    | '.' :: rest =>
      let ((path, last), rest) ← readPath parts rest
      return ((key :: path, last), rest)
    | rest => return (([], key), rest)

def isWordChar (c : Char) : Bool :=
  c.isAlphanum || c == '_' || c == '+' || c == '-' || c == '.' || c == ':'

/-- Reads a scalar. A date and a time may have one space between them. -/
def readScalar (text : Text) : Option (Setting × Text) :=
  let word := text.takeWhile isWordChar
  let rest := text.dropWhile isWordChar
  let joined := match rest with
    | ' ' :: digit :: _ => isDate word && digit.isDigit
    | _ => false
  if joined then
    let behind := rest.drop 1
    (scalar? (word ++ ' ' :: behind.takeWhile isWordChar)).map fun setting =>
      (setting, behind.dropWhile isWordChar)
  else (scalar? word).map fun setting => (setting, rest)

/-- Reads the items of an array behind its opening bracket, at most so many. -/
def readItems (readValue : Text → Option (Setting × Text)) :
    Nat → Text → Option (List Setting × Text)
  | 0, _ => none
  | items + 1, text => do
    match ← dropFiller false text with
    | ']' :: rest => return ([], rest)
    | text =>
      let (item, rest) ← readValue text
      match ← dropFiller false rest with
      | ']' :: rest => return ([item], rest)
      | ',' :: rest =>
        let (items, rest) ← readItems readValue items rest
        return (item :: items, rest)
      | _ => none

/-- Reads a binding: the parts of the key before the last, the last, and the value. -/
def readBinding (readValue : Text → Option (Setting × Text)) (text : Text) :
    Option ((List Text × Text × Setting) × Text) := do
  let ((path, key), rest) ← readPath text.length text
  match rest with
  | '=' :: rest =>
    let (setting, rest) ← readValue (dropBlanks rest)
    return ((path, key, setting), rest)
  | _ => none

/-- Reads the bindings of an inline table behind its opening brace, at most so many, and adds them
to those read before. -/
def readInline (readValue : Text → Option (Setting × Text)) :
    Nat → Entries → Text → Option (Setting × Text)
  | 0, _, _ => none
  | bindings + 1, entries, text => do
    match ← dropFiller false text with
    | '\x7d' :: rest => return (.table (entriesToSettings entries), rest)
    | text =>
      let ((path, key, setting), rest) ← readBinding readValue text
      let entries ← assign path key setting entries
      match ← dropFiller false rest with
      | '\x7d' :: rest => return (.table (entriesToSettings entries), rest)
      | ',' :: rest => readInline readValue bindings entries rest
      | _ => none

def readValue : Nat → Text → Option (Setting × Text)
  | 0, _ => none
  | depth + 1, text =>
    let string (read : Option (Text × Text)) : Option (Setting × Text) :=
      read.map fun (value, rest) => (.string value, rest)
    match text with
    | '"' :: '"' :: '"' :: rest => string (readLongBasic .no (dropFirstBreak rest))
    | '"' :: rest => string (readBasic rest)
    | '\'' :: '\'' :: '\'' :: rest => string (readLongLiteral (dropFirstBreak rest))
    | '\'' :: rest => string (readLiteral rest)
    | '[' :: rest =>
      (readItems (readValue depth) rest.length rest).map fun (items, rest) => (.list items, rest)
    | '\x7b' :: rest => readInline (readValue depth) rest.length [] rest
    | text => readScalar text

/-- A document under construction: its bindings and the path of the latest header. -/
structure Draft where
  entries : Entries
  header : List Text

/-- Reads a header or a binding and adds it to the draft. -/
def readLine (draft : Draft) (text : Text) : Option (Draft × Text) :=
  match text with
  | '[' :: '[' :: rest => do
    let ((path, key), rest) ← readPath rest.length rest
    match rest with
    | ']' :: ']' :: rest =>
      return (⟨← openElement path key draft.entries, path ++ [key]⟩, rest)
    | _ => none
  | '[' :: rest => do
    let ((path, key), rest) ← readPath rest.length rest
    match rest with
    | ']' :: rest => return (⟨← openTable path key draft.entries, path ++ [key]⟩, rest)
    | _ => none
  | text => do
    let ((path, key, setting), rest) ← readBinding (readValue text.length) text
    return ({ draft with entries := ← assignUnder draft.header path key setting draft.entries }, rest)

def readLines : Nat → Draft → Text → Option Draft
  | 0, _, _ => none
  | lines + 1, draft, text => do
    match ← dropFiller false text with
    | [] => return draft
    | text =>
      let (draft, rest) ← readLine draft text
      if atLineEnd rest then readLines lines draft rest else none

def dropMark : Text → Text
  | '\ufeff' :: rest => rest
  | text => text

def read? (document : Text) : Option Setting :=
  let text := dropMark document
  (readLines (text.length + 1) ⟨[], []⟩ text).map fun draft =>
    .table (entriesToSettings draft.entries)

end MarkupEditor.Toml
