import MarkupEditor.Decimal.Shortest
import MarkupEditor.Text.Quoted

/-!
# Settings

A setting is a value of a configuration before it is known what the value is for. Configurations
come from files and from hosts; a host may also give the value null, a file may also give a moment
in time.
-/

namespace MarkupEditor

inductive FloatValue where
  | finite (negative : Bool) (size : Decimal.Binary)
  | infinite (negative : Bool)
  | nan
deriving DecidableEq, Repr

def FloatValue.text : FloatValue → Text
  | finite negative size => (if negative then ['-'] else []) ++ size.text
  | infinite negative => (if negative then ['-'] else []) ++ "inf".toList
  | nan => "NaN".toList

inductive Setting where
  | null
  | boolean (value : Bool)
  | integer (value : Int)
  | float (value : FloatValue)
  | string (value : Text)
  | moment (value : Text)
  | list (items : List Setting)
  | table (entries : List (Text × Setting))
deriving Inhabited

namespace Setting

def integerText (value : Int) : Text :=
  (if value < 0 then ['-'] else []) ++ Text.ofNat value.natAbs

/-- The width that a whole number needs is named if it exceeds 64 bits. -/
def widthNote (value : Int) : Text :=
  if -Int.pow 2 63 ≤ value ∧ value < Int.pow 2 64 then []
  else if value < Int.pow 2 127 then " as i128".toList
  else " as u128".toList

/-- What a message calls the value. A moment is kept as a table of its parts. -/
def describe : Setting → Text
  | null => "null".toList
  | boolean value => "boolean `".toList ++ (if value then "true" else "false").toList ++ "`".toList
  | integer value => "integer `".toList ++ integerText value ++ "`".toList ++ widthNote value
  | float value => "floating point `".toList ++ value.text ++ "`".toList
  | string value => "string ".toList ++ value.quoted
  | moment _ | table _ => "map".toList
  | list _ => "sequence".toList

end Setting

end MarkupEditor
