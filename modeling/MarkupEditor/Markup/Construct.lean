import MarkupEditor.Markup.Inline
import MarkupEditor.Markup.Line

/-!
# The construct table

A line is rendered by ten rewriting steps in a fixed order, each working on the result of the step
before it. Images come before links, because a reference behind an exclamation mark also contains a
plain reference.
-/

namespace MarkupEditor.Markup

inductive Construct where
  | heading
  | bold
  | italic
  | blockquote
  | code
  | rule
  | image
  | link
  | orderedItem
  | unorderedItem
deriving DecidableEq, Repr

/-- All constructs in the order of their steps. -/
def Construct.all : List Construct :=
  [heading, bold, italic, blockquote, code, rule, image, link, orderedItem, unorderedItem]

/-- Wraps the body of a line form in an element, and keeps a line of another form. -/
def wrapLine (name : Text) (body? : Text → Option Text) (line : Text) : Text :=
  match body? line with
  | some body => element name body
  | none => line

def Construct.rewrite : Construct → Text → Text
  | heading => wrapLine "h1".toList headingBody?
  | bold => rewriteFirst boldAt
  | italic => rewriteFirst italicAt
  | blockquote => wrapLine "blockquote".toList quoteBody?
  | code => rewriteFirst codeAt
  | rule => fun line => if line = "---".toList then "<hr>".toList else line
  | image => rewriteFirst imageAt
  | link => rewriteFirst linkAt
  | orderedItem => wrapLine "li".toList orderedBody?
  | unorderedItem => wrapLine "li".toList unorderedBody?

def rewriteAll (constructs : List Construct) (line : Text) : Text :=
  constructs.foldl (fun text construct => construct.rewrite text) line

def renderLine (line : Text) : Text :=
  rewriteAll Construct.all line

/-- The HTML of a text in which only inline constructs count. -/
def renderInline (text : Text) : Text :=
  rewriteAll [.bold, .italic, .code, .image, .link] text

end MarkupEditor.Markup
