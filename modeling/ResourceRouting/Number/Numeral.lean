import ResourceRouting.Text

/-!
# Numerals

The text of a number: a sign, digits that may hold a point, and an exponent, or a word for what
is no finite number.
-/

namespace ResourceRouting
namespace Number

/-- A number as its text gives it. -/
inductive Numeral
  /-- No number at all. -/
  | undefined
  /-- A number beyond all others. -/
  | infinite (negative : Bool)
  /-- The integer of some digits, multiplied with a power of ten. -/
  | finite (negative : Bool) (digits : Text) (exponent : Int)
  deriving DecidableEq, Repr

namespace Numeral

/-- The exponent of a number, which may be absent; nothing may follow it. -/
def readExponent? : Text → Option Int
  | [] => some 0
  | letter :: rest =>
      if letter = 'e' || letter = 'E' then
        let (negative, digits) :=
          match rest with
          | '-' :: digits => (true, digits)
          | '+' :: digits => (false, digits)
          | digits => (false, digits)
        if digits.isEmpty || !digits.all Char.isDigit then none
        else if negative then some (-(Text.ofDecimal digits : Int))
        else some (Text.ofDecimal digits : Int)
      else
        none

/-- The number that a word stands for; case does not matter. -/
def ofWord? (negative : Bool) (word : Text) : Option Numeral :=
  match String.ofList (Text.lowerAscii word) with
  | "nan" => some undefined
  | "inf" => some (infinite negative)
  | "infinity" => some (infinite negative)
  | _ => none

/-- The number of a text without a sign. -/
def readUnsigned? (negative : Bool) (text : Text) : Option Numeral :=
  let whole := text.takeWhile Char.isDigit
  let (fraction, rest) :=
    match text.dropWhile Char.isDigit with
    | '.' :: behind => (behind.takeWhile Char.isDigit, behind.dropWhile Char.isDigit)
    | behind => ([], behind)
  if whole.isEmpty && fraction.isEmpty then
    ofWord? negative text
  else
    (readExponent? rest).map fun exponent =>
      finite negative (whole ++ fraction) (exponent - (fraction.length : Int))

/-- The number of a text, if the text is one. -/
def read? : Text → Option Numeral
  | '-' :: rest => readUnsigned? true rest
  | '+' :: rest => readUnsigned? false rest
  | text => readUnsigned? false text

end Numeral
end Number
end ResourceRouting
