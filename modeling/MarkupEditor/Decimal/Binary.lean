/-!
# Binary floating-point numbers

A finite number of the 64-bit binary format is a mantissa below `2 ^ 53` times a power of two. A
decimal stands for the nearest such number, and of two equally near ones for the one with the even
mantissa.
-/

namespace MarkupEditor.Decimal

/-- The number `mantissa * 2 ^ exponent`. -/
structure Binary where
  mantissa : Nat
  exponent : Int
deriving DecidableEq, Repr

namespace Binary

def minExponent : Int := -1074

def maxExponent : Int := 971

/-- The quotient of two numbers rounded to a whole number, a half to the even neighbour. -/
def roundQuotient (num den : Nat) : Nat :=
  let quotient := num / den
  let remainder := num % den
  if 2 * remainder < den ∨ 2 * remainder = den ∧ quotient % 2 = 0 then quotient else quotient + 1

/-- The power of two at or below a positive fraction. -/
def order (num den : Nat) : Int :=
  let estimate : Int := num.log2 - den.log2
  if num * Nat.pow 2 (-estimate).toNat < den * Nat.pow 2 estimate.toNat then estimate - 1
  else estimate

/-- The number nearest to a positive fraction, unless it is too large. -/
def ofFraction? (num den : Nat) : Option Binary :=
  let exponent := max (order num den - 52) minExponent
  let mantissa := roundQuotient (num * Nat.pow 2 (-exponent).toNat) (den * Nat.pow 2 exponent.toNat)
  let rounded : Binary :=
    if mantissa = Nat.pow 2 53 then ⟨Nat.pow 2 52, exponent + 1⟩ else ⟨mantissa, exponent⟩
  if rounded.exponent ≤ maxExponent then some rounded else none

/-- The number nearest to `digits * 10 ^ exponent`, unless it is too large. The first test spares
the work on decimals that lie far outside the format. -/
def ofDecimal? (digits : Nat) (exponent : Int) : Option Binary :=
  let size : Int := (Nat.toDigits 10 digits).length + exponent
  if digits = 0 ∨ size < -400 then some ⟨0, minExponent⟩
  else if 400 < size then none
  else ofFraction? (digits * Nat.pow 10 exponent.toNat) (Nat.pow 10 (-exponent).toNat)

end Binary

end MarkupEditor.Decimal
