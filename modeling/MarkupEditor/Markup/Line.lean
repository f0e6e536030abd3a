import MarkupEditor.Character.Digit
import MarkupEditor.Markup.Scan

/-!
# Line forms

A heading, a quote, a rule and a list item are forms of a whole line, told by how the line starts.
The body runs to the end of the text and holds no line feed.

* A heading is `^# (.*)$`, a quote `^> (.*)$`, and a rule `^---$`.
* An ordered item is `^ ?\d+\. (.*)$` and an unordered one `^ ?- (.*)$`. An item may be indented by
  one space; its number is any run of decimal digits, of whatever script.
-/

namespace MarkupEditor.Markup

open Character

/-- A body that stays on one line. -/
def oneLine? (body : Text) : Option Text :=
  if '\n' ∈ body then none else some body

def headingBody? : Text → Option Text
  | '#' :: ' ' :: body => oneLine? body
  | _ => none

def quoteBody? : Text → Option Text
  | '>' :: ' ' :: body => oneLine? body
  | _ => none

def dropIndent : Text → Text
  | ' ' :: rest => rest
  | line => line

def orderedBody? (line : Text) : Option Text :=
  let item := dropIndent line
  if (item.takeWhile isDigit).isEmpty then none
  else match item.dropWhile isDigit with
    | '.' :: ' ' :: body => oneLine? body
    | _ => none

def unorderedBody? (line : Text) : Option Text :=
  match dropIndent line with
  | '-' :: ' ' :: body => oneLine? body
  | _ => none

inductive ListKind where
  | ordered
  | unordered
deriving DecidableEq, Repr

namespace ListKind

def tag : ListKind → Text
  | ordered => "ol".toList
  | unordered => "ul".toList

def openTag (kind : ListKind) : Text :=
  '<' :: kind.tag ++ ['>']

def closeTag (kind : ListKind) : Text :=
  '<' :: '/' :: kind.tag ++ ['>']

end ListKind

/-- The kind of list that a line is an item of, if it is an item. -/
def classify (line : Text) : Option ListKind :=
  if (orderedBody? line).isSome then some .ordered
  else if (unorderedBody? line).isSome then some .unordered
  else none

end MarkupEditor.Markup
