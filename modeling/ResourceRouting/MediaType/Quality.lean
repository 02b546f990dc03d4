import ResourceRouting.Number.Binary
import ResourceRouting.Number.Numeral

/-!
# Qualities

The quality of a media range is a binary number of 32 bits from zero to one.  Every such number
is a whole multiple of `2 ^ -149`, so a quality is kept as this multiple and qualities are
compared as natural numbers.
-/

namespace ResourceRouting

/-- A quality factor. -/
inductive Quality
  /-- No number at all. -/
  | undefined
  /-- Zero with a negative sign. -/
  | negativeZero
  /-- So many multiples of `2 ^ -149`. -/
  | units (count : Nat)
  deriving DecidableEq, Repr

namespace Quality

/-- One, in units. -/
def oneUnits : Nat := Nat.pow 2 149

/-- The greatest quality, which is also the default. -/
def one : Quality := units oneUnits

/-- The quality as a number of units, where there is one. -/
def count : Quality → Nat
  | undefined => 0
  | negativeZero => 0
  | units count => count

/-- Whether the quality is greater than zero. -/
def isPositive (quality : Quality) : Bool :=
  0 < quality.count

/-- How two qualities compare, if both of them are numbers. -/
def compare? : Quality → Quality → Option Ordering
  | undefined, _ => none
  | _, undefined => none
  | first, second => some (compare first.count second.count)

/-- The bits of the number, unless it is none. -/
def bits? : Quality → Option Nat
  | undefined => none
  | negativeZero => some (Nat.pow 2 31)
  | units count =>
      if count < Nat.pow 2 24 then
        some count
      else
        let exponent := count.log2 - 23
        some ((exponent + 1) * Nat.pow 2 23 + (count / Nat.pow 2 exponent - Nat.pow 2 23))

/-- The quality of the integer of some digits times a power of ten, cut to the range from zero to one. -/
def ofDigits (negative : Bool) (digits : Text) (exponent : Int) : Quality :=
  let significant := digits.dropWhile (· = '0')
  let leading := (significant.length : Int) + exponent
  let magnitude : Nat :=
    if significant.isEmpty || leading < -60 then 0
    else if 60 < exponent then oneUnits
    else
      match Number.binary32.round? (Text.ofDecimal significant * Nat.pow 10 exponent.toNat)
          (Nat.pow 10 (-exponent).toNat) with
      | none => oneUnits
      | some rounded => rounded.mantissa * Nat.pow 2 (rounded.exponent + 149).toNat
  if negative then
    if magnitude = 0 then negativeZero else units 0
  else
    units (min magnitude oneUnits)

/-- The quality that a numeral gives, cut to the range from zero to one. -/
def ofNumeral : Number.Numeral → Quality
  | .undefined => undefined
  | .infinite negative => if negative then units 0 else one
  | .finite negative digits exponent => ofDigits negative digits exponent

/-- The quality that a number denotes, if the text is one. -/
def read? (text : Text) : Option Quality :=
  (Number.Numeral.read? text).map ofNumeral

/--
The quality in thousandths: the product with a thousand is rounded to a number of 32 bits and
that to the nearest integer, a half going up.
-/
def thousandths (quality : Quality) : Nat :=
  match Number.binary32.round? (quality.count * 1000) oneUnits with
  | none => 0
  | some product => (2 * product.numerator + product.denominator) / (2 * product.denominator)

end Quality
end ResourceRouting
