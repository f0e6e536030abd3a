import MarkupEditor.Decimal.Binary
import MarkupEditor.Text

/-!
# Shortest decimals

A number is shown by the fewest decimal digits that stand for it, and of several such decimals by
the nearest; of two equally near ones the larger is taken. The digits are written positionally and
with at least one place behind the point.
-/

namespace MarkupEditor.Decimal

/-- Compares `digits * 10 ^ exponent` with `mantissa * 2 ^ power`. -/
def compareScaled (digits : Nat) (exponent : Int) (mantissa : Nat) (power : Int) : Ordering :=
  compare (digits * Nat.pow 10 exponent.toNat * Nat.pow 2 (-power).toNat)
    (mantissa * Nat.pow 2 power.toNat * Nat.pow 10 (-exponent).toNat)

namespace Binary

/-- Whether a decimal stands for the number: it lies between the halfway points to the two
neighbours, which belong to the number with the even mantissa. The neighbour below a power of two
is half as far away. -/
def admits (value : Binary) (digits : Nat) (exponent : Int) : Bool :=
  let narrow := value.mantissa == Nat.pow 2 52 && decide (minExponent < value.exponent)
  let low := 4 * value.mantissa - (if narrow then 1 else 2)
  let high := 4 * value.mantissa + 2
  let closed := value.mantissa % 2 == 0
  let fromLow := compareScaled digits exponent low (value.exponent - 2)
  let fromHigh := compareScaled digits exponent high (value.exponent - 2)
  (fromLow == .gt || closed && fromLow == .eq) && (fromHigh == .lt || closed && fromHigh == .eq)

/-- The least `k` in a range with the number below `10 ^ k`. -/
def scale (value : Binary) : Int :=
  let estimate : Int := (value.mantissa.log2 + value.exponent) * 30103 / 100000 - 2
  ((List.range 6).map fun (step : Nat) => estimate + step).find?
    (fun k => compareScaled 1 k value.mantissa value.exponent == .gt) |>.getD estimate

/-- The decimal on the grid of `10 ^ exponent` that stands for the number, if there is one. -/
def onGrid? (value : Binary) (exponent : Int) : Option (Nat × Int) :=
  let below := value.mantissa * Nat.pow 2 value.exponent.toNat * Nat.pow 10 (-exponent).toNat
    / (Nat.pow 10 exponent.toNat * Nat.pow 2 (-value.exponent).toNat)
  let nearer := compareScaled (2 * below + 1) exponent (2 * value.mantissa) value.exponent == .gt
  match value.admits below exponent, value.admits (below + 1) exponent with
  | true, true => some (if nearer then below else below + 1, exponent)
  | true, false => some (below, exponent)
  | false, true => some (below + 1, exponent)
  | false, false => none

def shortest (value : Binary) : Nat × Int :=
  let scale := value.scale
  ((List.range 17).findSome? fun (places : Nat) => value.onGrid? (scale - 1 - places)).getD
    (value.mantissa * Nat.pow 2 value.exponent.toNat * Nat.pow 5 (-value.exponent).toNat,
      min value.exponent 0)

end Binary

/-- Writes `digits * 10 ^ exponent` positionally, with as many places behind the point as it needs
and at least one. -/
def positional (digits : Nat) (exponent : Int) : Text :=
  let places := (-exponent).toNat
  let numeral := Text.ofNat (digits * Nat.pow 10 exponent.toNat)
  let padded := List.replicate (places + 1 - numeral.length) '0' ++ numeral
  let whole := padded.take (padded.length - places)
  let behind := ((padded.drop (padded.length - places)).reverse.dropWhile (· == '0')).reverse
  whole ++ '.' :: (if behind.isEmpty then ['0'] else behind)

def Binary.text (value : Binary) : Text :=
  if value.mantissa = 0 then "0.0".toList
  else
    let (digits, exponent) := value.shortest
    positional digits exponent

end MarkupEditor.Decimal
