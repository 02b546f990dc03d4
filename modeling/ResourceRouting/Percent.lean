import ResourceRouting.Utf8

/-!
# Percent coding

An escape is a percent sign and the two hexadecimal digits of a byte.  Decoding reads escapes and
leaves everything else, malformed escapes included, as it is.
-/

namespace ResourceRouting
namespace Percent

/-- The upper-case hexadecimal digit of a number below sixteen. -/
def hexDigit (value : Nat) : Char :=
  if value < 10 then Char.ofNat (48 + value) else Char.ofNat (55 + value)

/-- The escape of a byte. -/
def escapeByte (byte : UInt8) : Text :=
  ['%', hexDigit (byte.toNat / 16), hexDigit (byte.toNat % 16)]

/-- The escapes of the bytes of a character. -/
def escapeChar (character : Char) : Text :=
  (Utf8.encodeChar character).flatMap escapeByte

/-- Whether a text begins with two hexadecimal digits. -/
def beginsWithDigits : Text → Bool
  | high :: low :: _ => Text.isHexDigit high && Text.isHexDigit low
  | _ => false

/-- The bytes of a text, with each escape read as the byte that it denotes. -/
def decode : Text → List UInt8
  | [] => []
  | '%' :: high :: low :: rest =>
      if Text.isHexDigit high && Text.isHexDigit low then
        UInt8.ofNat (Text.hexValue high * 16 + Text.hexValue low) :: decode rest
      else
        Utf8.encodeChar '%' ++ decode (high :: low :: rest)
  | character :: rest => Utf8.encodeChar character ++ decode rest

@[simp]
theorem decode_nil : decode [] = [] := rfl

end Percent
end ResourceRouting
