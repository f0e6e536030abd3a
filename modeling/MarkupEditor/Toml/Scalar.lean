import MarkupEditor.Setting

/-!
# TOML scalars

Booleans, numbers and moments in time are words without spaces, told apart by their form. An
underscore may stand between two digits. A decimal number has no leading zeros; a hexadecimal, octal
or binary one has no sign. A moment is a date, a time, or both, and both may be followed by an
offset.
-/

namespace MarkupEditor.Toml

def digitIn? (base : Nat) (c : Char) : Option Nat :=
  let digit :=
    if '0' ≤ c ∧ c ≤ '9' then some (c.toNat - '0'.toNat)
    else if 'a' ≤ c ∧ c ≤ 'f' then some (c.toNat - 'a'.toNat + 10)
    else if 'A' ≤ c ∧ c ≤ 'F' then some (c.toNat - 'A'.toNat + 10)
    else none
  digit.filter (· < base)

def valueIn (base : Nat) (digits : List Nat) : Nat :=
  digits.foldl (fun value digit => base * value + digit) 0

/-- Digits with underscores between some of them. -/
def digits? (base : Nat) (text : Text) : Option (List Nat) :=
  let groups := text.splitOn '_'
  if groups.any List.isEmpty then none else groups.flatten.mapM (digitIn? base)

/-- Decimal digits without leading zeros. -/
def wholeDigits? (text : Text) : Option (List Nat) := do
  let digits ← digits? 10 text
  if digits.head? = some 0 ∧ digits.length ≠ 1 then none else some digits

/-- A sign, if there is one, and what follows: whether it is negative, and the rest. -/
def splitSign : Text → Bool × Text
  | '-' :: rest => (true, rest)
  | '+' :: rest => (false, rest)
  | text => (false, text)

/-- A whole number that fits into 128 bits, with or without sign. -/
def fits? (value : Int) : Option Setting :=
  if -Int.pow 2 127 ≤ value ∧ value < Int.pow 2 128 then some (.integer value) else none

def integer? (text : Text) : Option Setting := do
  match text with
  | '0' :: 'x' :: rest => fits? (valueIn 16 (← digits? 16 rest))
  | '0' :: 'o' :: rest => fits? (valueIn 8 (← digits? 8 rest))
  | '0' :: 'b' :: rest => fits? (valueIn 2 (← digits? 2 rest))
  | _ =>
    let (negative, rest) := splitSign text
    let value := valueIn 10 (← wholeDigits? rest)
    fits? (if negative then -(value : Int) else value)

def exponent? (text : Text) : Option Int := do
  let (negative, rest) := splitSign text
  let value := valueIn 10 (← digits? 10 rest)
  return if negative then -(value : Int) else value

/-- A float has places behind a point, an exponent, or both. -/
def decimal? (negative : Bool) (text : Text) : Option FloatValue := do
  let isMark (c : Char) : Bool := c == 'e' || c == 'E'
  let mantissa := text.takeWhile fun c => !isMark c
  let whole ← wholeDigits? (mantissa.takeWhile (· != '.'))
  let places ← match mantissa.dropWhile (· != '.') with
    | [] => some []
    | _ :: behind => digits? 10 behind
  let exponent ← match text.dropWhile (fun c => !isMark c) with
    | [] => some 0
    | _ :: behind => exponent? behind
  if mantissa.length = text.length ∧ places.isEmpty then none
  let size ← Decimal.Binary.ofDecimal? (valueIn 10 (whole ++ places)) (exponent - places.length)
  return .finite negative size

def float? (text : Text) : Option Setting :=
  let (negative, rest) := splitSign text
  if rest = "inf".toList then some (.float (.infinite negative))
  else if rest = "nan".toList then some (.float .nan)
  else (decimal? negative rest).map .float

/-- A number of exactly two digits within bounds. -/
def pair? (low high : Nat) (tens ones : Char) : Option Nat := do
  let value := 10 * (← digitIn? 10 tens) + (← digitIn? 10 ones)
  if low ≤ value ∧ value ≤ high then some value else none

def daysIn (year month : Nat) : Nat :=
  if month = 2 then
    if year % 4 = 0 ∧ (year % 100 ≠ 0 ∨ year % 400 = 0) then 29 else 28
  else if month = 4 ∨ month = 6 ∨ month = 9 ∨ month = 11 then 30
  else 31

def isDate : Text → Bool
  | [a, b, c, d, '-', e, f, '-', g, h] =>
    match [a, b, c, d].mapM (digitIn? 10), pair? 1 12 e f with
    | some year, some month => (pair? 1 (daysIn (valueIn 10 year) month) g h).isSome
    | _, _ => false
  | _ => false

def isFraction : Text → Bool
  | [] => true
  | '.' :: digits => !digits.isEmpty && digits.all fun c => (digitIn? 10 c).isSome
  | _ => false

def isTime : Text → Bool
  | [a, b, ':', c, d] => (pair? 0 23 a b).isSome && (pair? 0 59 c d).isSome
  | a :: b :: ':' :: c :: d :: ':' :: e :: f :: rest =>
    (pair? 0 23 a b).isSome && (pair? 0 59 c d).isSome && (pair? 0 60 e f).isSome
      && isFraction rest
  | _ => false

def isOffsetTime (text : Text) : Bool :=
  match text.reverse with
  | 'Z' :: rest | 'z' :: rest => isTime rest.reverse
  | d :: c :: ':' :: b :: a :: sign :: rest =>
    (sign == '+' || sign == '-') && (pair? 0 23 a b).isSome && (pair? 0 59 c d).isSome
      && isTime rest.reverse
  | _ => false

def moment? (text : Text) : Option Setting :=
  let date := text.take 10
  let isMoment := isDate text || isTime text ||
    match text.drop 10 with
    | c :: time =>
      (c == 'T' || c == 't' || c == ' ') && isDate date && (isTime time || isOffsetTime time)
    | [] => false
  if isMoment then some (.moment text) else none

def scalar? (word : Text) : Option Setting :=
  if word = "true".toList then some (.boolean true)
  else if word = "false".toList then some (.boolean false)
  else integer? word <|> float? word <|> moment? word

end MarkupEditor.Toml
