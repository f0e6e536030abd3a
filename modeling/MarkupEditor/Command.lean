import MarkupEditor.Text

/-!
# Formatting commands

A command turns a selected text into markup. The list-like commands also rewrite the lines of a
selection over several lines, each with its number in the selection, and set the block off with
blank lines.
-/

namespace MarkupEditor

inductive Command where
  | heading
  | bold
  | italic
  | blockquote
  | orderedList
  | unorderedList
  | code
  | horizontalRule
  | link
  | image
deriving DecidableEq, Repr

namespace Command

def all : List Command :=
  [heading, bold, italic, blockquote, orderedList, unorderedList, code, horizontalRule, link, image]

theorem mem_all (command : Command) : command ∈ all := by
  cases command <;> decide

def index (command : Command) : Nat :=
  all.idxOf command

/-- The name shown to the user and written to files. -/
def name : Command → Text
  | heading => "Heading".toList
  | bold => "Bold".toList
  | italic => "Italic".toList
  | blockquote => "Blockquote".toList
  | orderedList => "Ordered-List".toList
  | unorderedList => "Unordered-List".toList
  | code => "Code".toList
  | horizontalRule => "Horizontal-Rule".toList
  | link => "Link".toList
  | image => "Image".toList

def orPlaceholder (value placeholder : Text) : Text :=
  if value.isEmpty then placeholder else value

/-- The markup of a value. The empty value gives markup that shows a placeholder where the construct
needs a body. -/
def markup (command : Command) (value : Text) : Text :=
  match command with
  | heading => "# ".toList ++ value
  | bold => "**".toList ++ orPlaceholder value [' '] ++ "**".toList
  | italic => "_".toList ++ orPlaceholder value [' '] ++ "_".toList
  | blockquote => "> ".toList ++ value
  | orderedList => "1. ".toList ++ value
  | unorderedList => "- ".toList ++ value
  | code => "`".toList ++ orPlaceholder value [' '] ++ "`".toList
  | horizontalRule => "---".toList
  | link => "[".toList ++ orPlaceholder value "title".toList ++ "](https://www.example.com)".toList
  | image => "![".toList ++ orPlaceholder value "alt text".toList ++ "](image.jpg)".toList

/-- The rewritten line of a selection over several lines, in which it is the line with the number
`counter`. Only the list-like commands rewrite lines. -/
def markupLine? (command : Command) (line : Text) (counter : Nat) : Option Text :=
  match command with
  | blockquote => some ("> ".toList ++ line)
  | orderedList => some (Text.ofNat counter ++ ". ".toList ++ line)
  | unorderedList => some ("- ".toList ++ line)
  | _ => none

/-- Whether a block of several lines gets a blank line above and below. -/
def padsBlock : Command → Bool
  | blockquote | orderedList | unorderedList | horizontalRule => true
  | _ => false

/-- Whether the markup takes the place of the whole line, whatever is selected in it. -/
def replacesLine : Command → Bool
  | horizontalRule => true
  | _ => false

end Command

end MarkupEditor
