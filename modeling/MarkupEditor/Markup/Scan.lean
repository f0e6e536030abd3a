import MarkupEditor.Text

/-!
# Leftmost rewriting

An inline construct is given by a recogniser, which reads it at the very front of a text. Rewriting
tries the recogniser at each place from left to right and rewrites the first place that it accepts,
so a construct is rewritten at most once.
-/

namespace MarkupEditor.Markup

/-- Reads a construct at the front of a text: its HTML and the text behind it. -/
abbrev Recogniser := Text → Option (Text × Text)

/-- Rewrites the leftmost place that the recogniser accepts. -/
def rewriteFirst (recognise : Recogniser) : Text → Text
  | [] => []
  | c :: rest =>
    match recognise (c :: rest) with
    | some (html, behind) => html ++ behind
    | none => c :: rewriteFirst recognise rest

def element (name body : Text) : Text :=
  '<' :: name ++ '>' :: body ++ '<' :: '/' :: name ++ ['>']

end MarkupEditor.Markup
