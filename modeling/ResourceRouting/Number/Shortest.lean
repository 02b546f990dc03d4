import ResourceRouting.Number.Binary

/-!
# Shortest decimal text

The decimal number with the fewest digits that lies nearer to a given binary one than to any
other; of several such numbers the nearest is taken.
-/

namespace ResourceRouting
namespace Number

/-- The decimal number `digits * 10 ^ exponent`. -/
structure Decimal where
  /-- The decimal digits as an integer. -/
  digits : Nat
  /-- The power of ten that the integer is multiplied with. -/
  exponent : Int
  deriving DecidableEq, Repr

namespace Decimal

/-- The numerator of a decimal number as a fraction. -/
def numerator (decimal : Decimal) : Nat :=
  decimal.digits * Nat.pow 10 decimal.exponent.toNat

/-- The denominator of a decimal number as a fraction. -/
def denominator (decimal : Decimal) : Nat :=
  Nat.pow 10 (-decimal.exponent).toNat

/-- Whether a decimal number is read as the given magnitude. -/
def readsBack (format : BinaryFormat) (magnitude : Magnitude) (decimal : Decimal) : Bool :=
  match format.round? decimal.numerator decimal.denominator with
  | none => false
  | some found =>
      found.numerator * magnitude.denominator = magnitude.numerator * found.denominator

/-- The distance of a decimal number from a magnitude, as a numerator over a common denominator. -/
def distance (magnitude : Magnitude) (decimal : Decimal) : Nat :=
  let left := decimal.numerator * magnitude.denominator
  let right := magnitude.numerator * decimal.denominator
  if left ≤ right then right - left else left - right

/-- Both neighbours of a magnitude among the multiples of a power of ten. -/
def neighbours (magnitude : Magnitude) (exponent : Int) : Decimal × Decimal :=
  let below :=
    magnitude.numerator * Nat.pow 10 (-exponent).toNat /
      (magnitude.denominator * Nat.pow 10 exponent.toNat)
  (⟨below, exponent⟩, ⟨below + 1, exponent⟩)

/-- The better one of the neighbours that are read as the magnitude. -/
def candidate?
    (format : BinaryFormat)
    (magnitude : Magnitude)
    (exponent : Int) :
    Option Decimal :=
  let (below, above) := neighbours magnitude exponent
  match below.readsBack format magnitude, above.readsBack format magnitude with
  | false, false => none
  | true, false => some below
  | false, true => some above
  | true, true =>
      if below.distance magnitude < above.distance magnitude then some below
      else if above.distance magnitude < below.distance magnitude then some above
      else if below.digits % 2 = 0 then some below
      else some above

/-- The number of decimal digits of the integer part of a magnitude, less one; negative below one. -/
def leadingExponent (magnitude : Magnitude) : Int :=
  if magnitude.denominator ≤ magnitude.numerator then
    ((Nat.toDigits 10 (magnitude.numerator / magnitude.denominator)).length : Int) - 1
  else
    -((Nat.toDigits 10 ((magnitude.denominator - 1) / magnitude.numerator)).length : Int)

/-- Looks for the first exponent, going down from the given one, that has a candidate. -/
def search (format : BinaryFormat) (magnitude : Magnitude) (exponent : Int) : Nat → Decimal
  | 0 => (neighbours magnitude exponent).1
  | fuel + 1 =>
      match candidate? format magnitude exponent with
      | some decimal => decimal
      | none => search format magnitude (exponent - 1) fuel

/-- Drops the zeros that the digits of a decimal number end with. -/
def strip (decimal : Decimal) : Nat → Decimal
  | 0 => decimal
  | fuel + 1 =>
      if decimal.digits ≠ 0 && decimal.digits % 10 = 0 then
        strip ⟨decimal.digits / 10, decimal.exponent + 1⟩ fuel
      else
        decimal

/-- The shortest decimal number that is read as a magnitude; seventeen digits are enough. -/
def shortest (magnitude : Magnitude) : Decimal :=
  if magnitude.mantissa = 0 then
    ⟨0, 0⟩
  else
    strip (search binary64 magnitude (leadingExponent magnitude + 1) 19) 20

end Decimal
end Number
end ResourceRouting
