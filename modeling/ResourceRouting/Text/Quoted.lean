import ResourceRouting.Text

/-!
# Quoted text

Text as it is shown in messages: between quotes, with escapes for whatever a reader could not see
or could mistake.
-/

namespace ResourceRouting
namespace Text

/-- The lower-case hexadecimal digits of a number. -/
def hexadecimal (number : Nat) : Text :=
  Nat.toDigits 16 number

/--
A character as it is shown inside quotes.  Controls with a short escape, the backslash and the
quote that surrounds the text are escaped with a backslash; characters that do not print, or that
would attach to the character before them, are shown by their code points.
-/
def quotedChar (quote character : Char) : Text :=
  if character = '\x00' then ['\\', '0']
  else if character = '\t' then ['\\', 't']
  else if character = '\r' then ['\\', 'r']
  else if character = '\n' then ['\\', 'n']
  else if character = '\\' || character = quote then ['\\', character]
  else if Unicode.isPrintable character && !Unicode.continuesGrapheme character then [character]
  else ['\\', 'u', '{'] ++ hexadecimal character.toNat ++ ['}']

/-- A character between single quotes. -/
def quoteChar (character : Char) : Text :=
  '\'' :: quotedChar '\'' character ++ ['\'']

/-- A text between double quotes. -/
def quote (text : Text) : Text :=
  '"' :: text.flatMap (quotedChar '"') ++ ['"']

end Text
end ResourceRouting
