/-!
# Binary floating point

Magnitudes of binary floating-point numbers, and the rounding of a quotient to the nearest one,
where a tie goes to the even neighbour.
-/

namespace ResourceRouting
namespace Number

/-- A kind of binary floating-point numbers. -/
structure BinaryFormat where
  /-- The number of binary digits. -/
  precision : Nat
  /-- The exponent of the smallest step between two numbers. -/
  leastExponent : Int
  /-- The exponent of the largest step between two numbers. -/
  greatestExponent : Int

/-- Numbers of 32 bits. -/
def binary32 : BinaryFormat := ⟨24, -149, 104⟩

/-- Numbers of 64 bits. -/
def binary64 : BinaryFormat := ⟨53, -1074, 971⟩

/-- The magnitude `mantissa * 2 ^ exponent`. -/
structure Magnitude where
  /-- The binary digits as an integer. -/
  mantissa : Nat
  /-- The power of two that the integer is multiplied with. -/
  exponent : Int
  deriving DecidableEq, Repr

namespace Magnitude

/-- Zero. -/
def zero : Magnitude := ⟨0, 0⟩

/-- The numerator of the magnitude as a fraction. -/
def numerator (magnitude : Magnitude) : Nat :=
  magnitude.mantissa * Nat.pow 2 magnitude.exponent.toNat

/-- The denominator of the magnitude as a fraction. -/
def denominator (magnitude : Magnitude) : Nat :=
  Nat.pow 2 (-magnitude.exponent).toNat

end Magnitude

/-- The integer nearest to a quotient; a tie goes to the even one. -/
def divideToEven (numerator denominator : Nat) : Nat :=
  let quotient := numerator / denominator
  let twice := 2 * (numerator % denominator)
  if denominator < twice || (twice = denominator && quotient % 2 = 1) then
    quotient + 1
  else
    quotient

namespace BinaryFormat

/-- The exponent at which a quotient has as many binary digits as the format holds, or one more. -/
def exponentFor (format : BinaryFormat) (numerator denominator : Nat) : Int :=
  let estimate :=
    (numerator.log2 : Int) - (denominator.log2 : Int) - (format.precision : Int) + 1
  let tooFine :=
    Nat.pow 2 format.precision * denominator * Nat.pow 2 estimate.toNat ≤
      numerator * Nat.pow 2 (-estimate).toNat
  let tooCoarse :=
    numerator * Nat.pow 2 (-estimate).toNat <
      Nat.pow 2 (format.precision - 1) * denominator * Nat.pow 2 estimate.toNat
  max format.leastExponent
    (if tooFine then estimate + 1 else if tooCoarse then estimate - 1 else estimate)

/-- The magnitude nearest to a quotient, unless it is too large for the format. -/
def round? (format : BinaryFormat) (numerator denominator : Nat) : Option Magnitude :=
  if numerator = 0 then
    some .zero
  else
    let exponent := format.exponentFor numerator denominator
    let mantissa :=
      divideToEven (numerator * Nat.pow 2 (-exponent).toNat)
        (denominator * Nat.pow 2 exponent.toNat)
    let (mantissa', exponent') :=
      if mantissa = Nat.pow 2 format.precision then (mantissa / 2, exponent + 1)
      else (mantissa, exponent)
    if format.greatestExponent < exponent' then none else some ⟨mantissa', exponent'⟩

end BinaryFormat
end Number
end ResourceRouting
