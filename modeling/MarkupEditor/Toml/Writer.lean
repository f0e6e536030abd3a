import MarkupEditor.Text

/-!
# Writing TOML

Tables are written under a header, with one line for each binding. An array of several strings has
one line for each of them, indented by four spaces and closed by a comma; a shorter array stays on
the line of its key.
-/

namespace MarkupEditor.Toml

def writeString (text : Text) : Text :=
  '"' :: text ++ ['"']

def writeBoolean (value : Bool) : Text :=
  (if value then "true" else "false").toList

def writeStrings : List Text → Text
  | [] => "[]".toList
  | [item] => '[' :: writeString item ++ [']']
  | items =>
    "[\n".toList ++ items.flatMap (fun item => "    ".toList ++ writeString item ++ ",\n".toList)
      ++ [']']

def writeBinding (key value : Text) : Text :=
  key ++ " = ".toList ++ value ++ ['\n']

def writeHeader (key : Text) : Text :=
  '[' :: key ++ "]\n".toList

end MarkupEditor.Toml
