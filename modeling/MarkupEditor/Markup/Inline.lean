import MarkupEditor.Markup.Scan

/-!
# Inline constructs

Bold, italic, code, image and link. Each is described by what its pattern reads at the front of a
text; the body is kept verbatim, and nothing is escaped.

* Bold, `\*\*(.+?)\*\*`, reads two stars, a body of at least one character without a line feed, and
  the nearest two stars behind the body.
* Italic, `\*([^*]+)\*|_([^_]+)_`, and code, `` `([^`]+)` ``, read a mark, a nonempty body without
  that mark, and the mark again.
* A link, `\[([^\]]*)\]\(([^)]*)\)`, is a reference: a label in brackets and a target in parentheses
  right behind it. An image, `!\[([^\]]*)\]\(([^)]*)\)`, is a reference behind an exclamation mark.
-/

namespace MarkupEditor.Markup

/-- The text before the nearest two stars and the text behind them, unless a line feed comes
first. -/
def untilStars : Text → Option (Text × Text)
  | [] => none
  | '*' :: '*' :: behind => some ([], behind)
  | c :: rest =>
    if c = '\n' then none
    else (untilStars rest).map fun (body, behind) => (c :: body, behind)

/-- A body in two pairs of stars. The body has a first character, which may itself be a star. -/
def bold? : Text → Option (Text × Text)
  | '*' :: '*' :: c :: rest =>
    if c = '\n' then none
    else (untilStars rest).map fun (body, behind) => (c :: body, behind)
  | _ => none

/-- A nonempty body between two marks, without the mark inside. -/
def marked? (mark : Char) : Text → Option (Text × Text)
  | [] => none
  | c :: rest =>
    if c = mark then
      match rest.dropWhile (· != mark) with
      | [] => none
      | _ :: behind =>
        let body := rest.takeWhile (· != mark)
        if body.isEmpty then none else some (body, behind)
    else none

/-- A label in brackets, the target in parentheses right behind it, and the text behind both. -/
def reference? : Text → Option (Text × Text × Text)
  | '[' :: rest =>
    match rest.dropWhile (· != ']') with
    | _ :: '(' :: tail =>
      match tail.dropWhile (· != ')') with
      | _ :: behind => some (rest.takeWhile (· != ']'), tail.takeWhile (· != ')'), behind)
      | [] => none
    | _ => none
  | _ => none

def boldAt : Recogniser := fun text =>
  (bold? text).map fun (body, behind) => (element "strong".toList body, behind)

def italicAt : Recogniser := fun text =>
  (marked? '*' text <|> marked? '_' text).map fun (body, behind) =>
    (element "em".toList body, behind)

def codeAt : Recogniser := fun text =>
  (marked? '\x60' text).map fun (body, behind) => (element "code".toList body, behind)

def imageHtml (label target : Text) : Text :=
  "<img src=\"".toList ++ target ++ "\" alt=\"".toList ++ label ++ "\">".toList

def anchorHtml (label target : Text) : Text :=
  "<a href=\"".toList ++ target ++ "\">".toList ++ label ++ "</a>".toList

def imageAt : Recogniser
  | '!' :: rest => (reference? rest).map fun (label, target, behind) =>
      (imageHtml label target, behind)
  | _ => none

def linkAt : Recogniser := fun text =>
  (reference? text).map fun (label, target, behind) => (anchorHtml label target, behind)

end MarkupEditor.Markup
