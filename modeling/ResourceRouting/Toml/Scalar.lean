import ResourceRouting.Number.Binary
import ResourceRouting.Toml

/-!
# TOML strings, numbers and dates

Each reader takes the beginning of a text and leaves the rest.
-/

namespace ResourceRouting
namespace Toml

/-- Whether a character is a space or a tab. -/
def isSpace (character : Char) : Bool :=
  character = ' ' || character = '\t'

/-- The text behind spaces and tabs. -/
def skipSpace (text : Text) : Text :=
  text.dropWhile isSpace

/-- The text behind the end of a line, if it begins with one. -/
def lineEnd? : Text → Option Text
  | '\n' :: rest => some rest
  | '\r' :: '\n' :: rest => some rest
  | _ => none

/-- Whether a character may stand in a comment: the tab is the only control character. -/
def isCommentChar (character : Char) : Bool :=
  character = '\t' || (32 ≤ character.toNat && character.toNat ≠ 127)

/-- The text behind a comment, if it begins with one. -/
def skipComment : Text → Text
  | '#' :: rest => rest.dropWhile isCommentChar
  | text => text

/-- Reads the digits of an escaped code point. -/
def readCodePoint (length : Nat) (text : Text) : Option (Char × Text) :=
  let digits := text.take length
  let value := Text.ofHex digits
  if digits.length = length && digits.all Text.isHexDigit && value.isValidChar then
    some (Char.ofNat value, text.drop length)
  else
    none

/-- Reads an escape behind its backslash. -/
def readEscape : Text → Option (Char × Text)
  | 'b' :: rest => some ('\x08', rest)
  | 't' :: rest => some ('\t', rest)
  | 'n' :: rest => some ('\n', rest)
  | 'f' :: rest => some ('\x0c', rest)
  | 'r' :: rest => some ('\r', rest)
  | '"' :: rest => some ('"', rest)
  | '\\' :: rest => some ('\\', rest)
  | 'u' :: rest => readCodePoint 4 rest
  | 'U' :: rest => readCodePoint 8 rest
  | _ => none

/-- Reads a string of one line behind its quote; `fuel` bounds the number of characters. -/
def readBasic : Nat → Text → Option (Text × Text)
  | 0, _ => none
  | _ + 1, [] => none
  | _ + 1, '"' :: rest => some ([], rest)
  | fuel + 1, '\\' :: rest => do
      let (character, after) ← readEscape rest
      let (more, final) ← readBasic fuel after
      some (character :: more, final)
  | fuel + 1, character :: rest => do
      if isCommentChar character then
        let (more, final) ← readBasic fuel rest
        some (character :: more, final)
      else
        none

/-- Reads a string of one line without escapes behind its apostrophe. -/
def readLiteral (text : Text) : Option (Text × Text) :=
  let inside := text.takeWhile fun character => isCommentChar character && character ≠ '\''
  match text.dropWhile fun character => isCommentChar character && character ≠ '\'' with
  | '\'' :: rest => some (inside, rest)
  | _ => none

/-- The text behind a line end that directly follows the opening of a long string. -/
def skipFirstLine (text : Text) : Text :=
  (lineEnd? text).getD text

/--
The quotes that a run of them adds to a long string, and the text behind the string if the run
ends it: three quotes do, and up to two may stand before them.
-/
def closeLong? (mark : Char) (text : Text) : Option (Text × Text) :=
  let run := (text.takeWhile (· = mark)).length
  if run < 3 then none
  else some (List.replicate (min (run - 3) 2) mark, text.drop (min (run - 3) 2 + 3))

/-- The text behind all spaces and line ends; `fuel` bounds their number. -/
def skipLines : Nat → Text → Text
  | 0, text => text
  | fuel + 1, text =>
      match lineEnd? (skipSpace text) with
      | some rest => skipLines fuel rest
      | none => skipSpace text

/--
Reads a string of several lines behind its opening.  With escapes, a backslash at the end of a line
leaves out the line end and all white space behind it.
-/
def readLong (mark : Char) (escapes : Bool) : Nat → Text → Option (Text × Text)
  | 0, _ => none
  | fuel + 1, text =>
      match closeLong? mark text with
      | some (quotes, rest) => some (quotes, rest)
      | none =>
          match lineEnd? text with
          | some rest =>
              (readLong mark escapes fuel rest).map fun (more, final) => ('\n' :: more, final)
          | none =>
              match text with
              | [] => none
              | character :: rest =>
                  if character = '\\' && escapes then
                    match lineEnd? (skipSpace rest) with
                    | some next => readLong mark escapes fuel (skipLines next.length next)
                    | none => do
                        let (escaped, after) ← readEscape rest
                        let (more, final) ← readLong mark escapes fuel after
                        some (escaped :: more, final)
                  else if isCommentChar character then
                    (readLong mark escapes fuel rest).map fun (more, final) =>
                      (character :: more, final)
                  else
                    none

/-- Reads a string. -/
def readString (text : Text) : Option (Text × Text) :=
  match text with
  | '"' :: '"' :: '"' :: rest => readLong '"' true (rest.length + 1) (skipFirstLine rest)
  | '"' :: rest => readBasic (rest.length + 1) rest
  | '\'' :: '\'' :: '\'' :: rest => readLong '\'' false (rest.length + 1) (skipFirstLine rest)
  | '\'' :: rest => readLiteral rest
  | _ => none

/-- Reads digits of a kind, between which single underscores may stand. -/
def readDigits (isDigit : Char → Bool) : Text → Option (Text × Text)
  | [] => none
  | digit :: rest =>
      if isDigit digit then
        match rest with
        | '_' :: after => (readDigits isDigit after).map fun (more, final) => (digit :: more, final)
        | next :: after =>
            if isDigit next then
              (readDigits isDigit (next :: after)).map fun (more, final) => (digit :: more, final)
            else
              some ([digit], next :: after)
        | [] => some ([digit], [])
      else
        none

/-- A text without the sign that it may begin with, and whether that sign is a minus. -/
def readSign : Text → Bool × Text
  | '-' :: rest => (true, rest)
  | '+' :: rest => (false, rest)
  | text => (false, text)

/-- Reads an unsigned decimal integer, which has no leading zeros. -/
def readWhole (text : Text) : Option (Text × Text) :=
  match text with
  | '0' :: rest => some (['0'], rest)
  | _ => readDigits Char.isDigit text

/-- An integer, if it has no more than 64 bits. -/
def integer? (negative : Bool) (value : Nat) : Option Toml :=
  if value < Nat.pow 2 63 || (negative && value = Nat.pow 2 63) then
    some (integer (if negative then -(value : Int) else value))
  else
    none

/-- Whether a character is an octal digit. -/
def isOctal (character : Char) : Bool :=
  '0' ≤ character && character ≤ '7'

/-- Whether a character is a binary digit. -/
def isBinary (character : Char) : Bool :=
  character = '0' || character = '1'

/-- The number that digits denote in a base. -/
def ofBase (base : Nat) (digits : Text) : Nat :=
  digits.foldl (fun value digit => value * base + Text.hexValue digit) 0

/-- Reads an unsigned integer in a base behind its mark. -/
def readBased (base : Nat) (isDigit : Char → Bool) (text : Text) : Option (Toml × Text) := do
  let (digits, rest) ← readDigits isDigit text
  let value ← integer? false (ofBase base digits)
  some (value, rest)

/-- Reads an integer. -/
def readInteger (text : Text) : Option (Toml × Text) :=
  match text with
  | '0' :: 'x' :: rest => readBased 16 Text.isHexDigit rest
  | '0' :: 'o' :: rest => readBased 8 isOctal rest
  | '0' :: 'b' :: rest => readBased 2 isBinary rest
  | _ => do
      let (negative, unsigned) := readSign text
      let (digits, rest) ← readWhole unsigned
      let value ← integer? negative (Text.ofDecimal digits)
      some (value, rest)

/-- Reads an exponent behind its letter. -/
def readExponent (text : Text) : Option (Int × Text) := do
  let (negative, unsigned) := readSign text
  let (digits, rest) ← readDigits Char.isDigit unsigned
  let value : Int := Text.ofDecimal digits
  some (if negative then -value else value, rest)

/-- Whether a decimal number is too large for a floating-point number of 64 bits. -/
def isTooLarge (digits : Text) (exponent : Int) : Bool :=
  let significant := digits.dropWhile (· = '0')
  let leading := (significant.length : Int) + exponent
  if significant.isEmpty || leading < 300 then false
  else if 400 < leading then true
  else
    (Number.binary64.round? (Text.ofDecimal significant * Nat.pow 10 exponent.toNat)
      (Nat.pow 10 (-exponent).toNat)).isNone

/-- A floating-point number; only a negative one may be too large. -/
def float? (negative : Bool) (digits : Text) (exponent : Int) : Option Toml :=
  if !negative && isTooLarge digits exponent then none else some float

/-- Whether a text begins with the letter of an exponent. -/
def beginsExponent : Text → Bool
  | 'e' :: _ => true
  | 'E' :: _ => true
  | _ => false

/-- Reads a floating-point number: an integer with a fraction, an exponent, or both. -/
def readFloat (text : Text) : Option (Toml × Text) := do
  let (negative, unsigned) := readSign text
  match unsigned with
  | 'i' :: 'n' :: 'f' :: rest => some (float, rest)
  | 'n' :: 'a' :: 'n' :: rest => some (float, rest)
  | _ =>
      let (whole, rest) ← readWhole unsigned
      match rest with
      | '.' :: behind =>
          let (fraction, after) ← readDigits Char.isDigit behind
          let places : Int := fraction.length
          if beginsExponent after then
            let (exponent, final) ← readExponent after.tail
            let value ← float? negative (whole ++ fraction) (exponent - places)
            some (value, final)
          else
            let value ← float? negative (whole ++ fraction) (-places)
            some (value, after)
      | _ =>
          if beginsExponent rest then
            let (exponent, final) ← readExponent rest.tail
            let value ← float? negative whole exponent
            some (value, final)
          else
            none

/-- Reads a number of exactly so many digits in a range. -/
def readField (length least greatest : Nat) (text : Text) : Option (Nat × Text) :=
  let digits := text.take length
  let value := Text.ofDecimal digits
  if digits.length = length && digits.all Char.isDigit && least ≤ value && value ≤ greatest then
    some (value, text.drop length)
  else
    none

/-- The number of days of a month. -/
def daysOf (year month : Nat) : Nat :=
  if month = 2 then
    if year % 4 = 0 && (year % 100 ≠ 0 || year % 400 = 0) then 29 else 28
  else if [4, 6, 9, 11].contains month then 30
  else 31

/-- The text behind a given character. -/
def readChar (expected : Char) : Text → Option Text
  | [] => none
  | character :: rest => if character = expected then some rest else none

/-- Reads a date of the calendar. -/
def readDay (text : Text) : Option Text := do
  let (year, afterYear) ← readField 4 0 9999 text
  let (month, afterMonth) ← readField 2 1 12 (← readChar '-' afterYear)
  let (_, rest) ← readField 2 1 (daysOf year month) (← readChar '-' afterMonth)
  some rest

/-- Reads a time of day. -/
def readTime (text : Text) : Option Text := do
  let (_, afterHour) ← readField 2 0 23 text
  let (_, afterMinute) ← readField 2 0 59 (← readChar ':' afterHour)
  let (_, rest) ← readField 2 0 60 (← readChar ':' afterMinute)
  match rest with
  | '.' :: behind =>
      if (behind.takeWhile Char.isDigit).isEmpty then some rest
      else some (behind.dropWhile Char.isDigit)
  | _ => some rest

/-- The text behind the offset of a time zone, if there is one. -/
def skipOffset (text : Text) : Option Text :=
  match text with
  | 'Z' :: rest => some rest
  | 'z' :: rest => some rest
  | sign :: rest =>
      if sign = '+' || sign = '-' then do
        let (_, afterHour) ← readField 2 0 23 rest
        let (_, final) ← readField 2 0 59 (← readChar ':' afterHour)
        some final
      else
        some text
  | [] => some text

/-- Whether a character may stand between a date and a time. -/
def joinsTime (character : Char) : Bool :=
  character = 'T' || character = 't' || character = ' '

/-- Reads a date, a time of day, or both. -/
def readDate (text : Text) : Option (Toml × Text) :=
  match readDay text with
  | none => (readTime text).map fun rest => (date, rest)
  | some rest =>
      match rest with
      | joint :: behind =>
          if joinsTime joint then
            match readTime behind with
            | none => some (date, rest)
            | some after => (skipOffset after).map fun final => (date, final)
          else
            some (date, rest)
      | [] => some (date, [])

/-- Reads a date or a number. -/
def readNumber (text : Text) : Option (Toml × Text) :=
  ((readDate text).or (readFloat text)).or (readInteger text)

end Toml
end ResourceRouting
