import MarkupEditor.Markup.Construct

/-!
# Rendering a document

The rendering goes once over the lines. Each line decides by itself what stands around it: a line
feed before it unless it continues a run of items, the opening tag of a list where a run starts, and
the closing tag where the run ends. It needs only the kinds of the line above and of the line below.
-/

namespace MarkupEditor.Markup

/-- What stands before a line that is not the first: nothing inside a run, otherwise a line feed. -/
def separator (above kind : Option ListKind) : Text :=
  if kind.isNone ∨ above ≠ kind then ['\n'] else []

/-- A line with the tags that open and close its run. -/
def renderBetween (above below : Option ListKind) (line : Text) : Text :=
  match classify line with
  | none => renderLine line
  | some kind =>
    (if above = some kind then [] else kind.openTag) ++ renderLine line
      ++ (if below = some kind then [] else kind.closeTag)

def headKind (lines : List Text) : Option ListKind :=
  lines.head?.bind classify

def renderBelow (above : Option ListKind) : List Text → Text
  | [] => []
  | line :: rest =>
    separator above (classify line) ++ renderBetween above (headKind rest) line
      ++ renderBelow (classify line) rest

def renderLines : List Text → Text
  | [] => []
  | line :: rest => renderBetween none (headKind rest) line ++ renderBelow (classify line) rest

def render (source : Text) : Text :=
  renderLines source.lines

end MarkupEditor.Markup
