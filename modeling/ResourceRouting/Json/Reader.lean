import ResourceRouting.Json
import ResourceRouting.Utf8

/-!
# Reading JSON

A document is read from bytes.  A fault is either a breach of the grammar or an early end; which
of the two it is depends on what the reader meets first.
-/

namespace ResourceRouting
namespace Json

/-- What is wrong with a document. -/
inductive Fault
  /-- The text is no JSON. -/
  | malformed
  /-- The text is JSON of another type than asked for. -/
  | mistyped
  /-- The text ends too early. -/
  | truncated
  deriving DecidableEq, Repr

/-- What is wrong with a document, in words. -/
def Fault.message : Fault → String
  | malformed => "malformed document"
  | mistyped => "document of another type"
  | truncated => "document ends early"

/-- What a reader leads to: a result and the bytes behind it. -/
abbrev Reading (α : Type) := Except Fault (α × List UInt8)

/-- The character whose code point a byte is. -/
def glyph (byte : UInt8) : Char :=
  Char.ofNat byte.toNat

/-- Whether a byte is white space. -/
def isSpace (byte : UInt8) : Bool :=
  [' ', '\n', '\t', '\r'].contains (glyph byte)

/-- The bytes behind white space. -/
def skipSpace (bytes : List UInt8) : List UInt8 :=
  bytes.dropWhile isSpace

/-- The next character, if there is one. -/
def peek? (bytes : List UInt8) : Option Char :=
  bytes.head?.map glyph

/-- Reads the given characters. -/
def readWord (word : List Char) (bytes : List UInt8) : Except Fault (List UInt8) :=
  match word, bytes with
  | [], rest => .ok rest
  | _ :: _, [] => .error .truncated
  | letter :: letters, byte :: rest =>
      if glyph byte = letter then readWord letters rest else .error .malformed

/-- The decimal digits that some bytes begin with, and the bytes behind them. -/
def readDigits (bytes : List UInt8) : List Char × List UInt8 :=
  let digits := (bytes.takeWhile fun byte => (glyph byte).isDigit).map glyph
  (digits, bytes.drop digits.length)

/-- The greatest integer that is kept without rounding. -/
def greatestInteger : Nat := 18446744073709551615

/--
Accumulates digits while the integer stays in range.  The result is the integer and how many
digits it consists of.
-/
def accumulate (value taken : Nat) : List Char → Nat × Nat
  | [] => (value, taken)
  | digit :: rest =>
      let next := value * 10 + (digit.toNat - 48)
      if greatestInteger < next then (value, taken) else accumulate next (taken + 1) rest

/-- The floating-point number nearest to a power of ten. -/
def powerOfTen (exponent : Nat) : Number.Magnitude :=
  (Number.binary64.round? (Nat.pow 10 exponent) 1).getD .zero

/-- The rounded quotient of two floating-point numbers. -/
def quotient (dividend divisor : Number.Magnitude) : Number.Magnitude :=
  (Number.binary64.round? (dividend.numerator * divisor.denominator)
    (dividend.denominator * divisor.numerator)).getD .zero

/-- The rounded product of two floating-point numbers, unless it is too large. -/
def product? (first second : Number.Magnitude) : Option Number.Magnitude :=
  Number.binary64.round? (first.numerator * second.numerator)
    (first.denominator * second.denominator)

/--
A floating-point number times a power of ten.  It is multiplied or divided by a rounded power
once, after as many divisions by the largest power as bring the exponent into range.
-/
def scale (magnitude : Number.Magnitude) (exponent : Int) : Nat → Except Fault Number.Magnitude
  | 0 => .ok .zero
  | fuel + 1 =>
      if exponent.natAbs ≤ 308 then
        if 0 ≤ exponent then
          match product? magnitude (powerOfTen exponent.natAbs) with
          | some scaled => .ok scaled
          | none => .error .malformed
        else
          .ok (quotient magnitude (powerOfTen exponent.natAbs))
      else if magnitude.mantissa = 0 then
        .ok magnitude
      else if 0 ≤ exponent then
        .error .malformed
      else
        scale (quotient magnitude (powerOfTen 308)) (exponent + 308) fuel

/-- The number of a sign, an integer of digits and a power of ten. -/
def floatOf (negative : Bool) (digits : Nat) (exponent : Int) : Except Fault JsonNumber :=
  let magnitude := (Number.binary64.round? digits 1).getD .zero
  (scale magnitude exponent 4).map (.float negative)

/-- The greatest power of ten that an exponent may name. -/
def greatestExponent : Nat := 2147483647

/-- Reads an exponent behind its letter, and makes the number. -/
def readExponent
    (negative : Bool)
    (digits : Nat)
    (start : Int)
    (bytes : List UInt8) :
    Reading JsonNumber :=
  let (positive, signed) :=
    match peek? bytes with
    | some '+' => (true, bytes.tail)
    | some '-' => (false, bytes.tail)
    | _ => (true, bytes)
  match signed with
  | [] => .error .truncated
  | _ :: _ =>
      let (found, rest) := readDigits signed
      if found.isEmpty then
        .error .malformed
      else
        let exponent := Text.ofDecimal found
        if greatestExponent < exponent then
          if digits ≠ 0 && positive then .error .malformed
          else .ok (.float negative .zero, rest)
        else
          (floatOf negative digits (if positive then start + exponent else start - exponent)).map
            fun number => (number, rest)

/-- Makes the number behind its digits, with an exponent if there is one. -/
def finishNumber
    (negative : Bool)
    (digits : Nat)
    (exponent : Int)
    (bytes : List UInt8) :
    Reading JsonNumber :=
  match peek? bytes with
  | some 'e' => readExponent negative digits exponent bytes.tail
  | some 'E' => readExponent negative digits exponent bytes.tail
  | _ => (floatOf negative digits exponent).map fun number => (number, bytes)

/-- Reads the digits behind a point; digits that no longer fit are dropped. -/
def readFraction
    (negative : Bool)
    (digits : Nat)
    (exponent : Int)
    (bytes : List UInt8) :
    Reading JsonNumber :=
  let (found, rest) := readDigits bytes
  match found with
  | [] => if rest.isEmpty then .error .truncated else .error .malformed
  | _ :: _ =>
      let (value, taken) := accumulate digits 0 found
      finishNumber negative value (exponent - taken) rest

/-- Reads a number behind its sign. -/
def readNumber (negative : Bool) (bytes : List UInt8) : Reading JsonNumber :=
  let (found, rest) := readDigits bytes
  match found with
  | [] => if bytes.isEmpty then .error .truncated else .error .malformed
  | first :: others =>
      if first = '0' && !others.isEmpty then
        .error .malformed
      else
        let (value, taken) := accumulate 0 0 found
        let dropped := found.length - taken
        match peek? rest with
        | some '.' => readFraction negative value dropped rest.tail
        | some 'e' => readExponent negative value dropped rest.tail
        | some 'E' => readExponent negative value dropped rest.tail
        | _ =>
            if dropped ≠ 0 then
              (floatOf negative value dropped).map fun number => (number, rest)
            else if negative then
              if value = 0 || 9223372036854775808 < value then
                (floatOf true value 0).map fun number => (number, rest)
              else
                .ok (.int (-(value : Int)), rest)
            else
              .ok (.ofNat value, rest)

/-- Reads a number whose value does not matter. -/
def skipNumber (bytes : List UInt8) : Except Fault (List UInt8) :=
  let (whole, afterWhole) := readDigits bytes
  match whole with
  | [] => .error .malformed
  | first :: others =>
      if first = '0' && !others.isEmpty then
        .error .malformed
      else
        let skipExponent := fun (rest : List UInt8) =>
          match peek? rest with
          | some letter =>
              if letter = 'e' || letter = 'E' then
                let signed :=
                  match peek? rest.tail with
                  | some '+' => rest.tail.tail
                  | some '-' => rest.tail.tail
                  | _ => rest.tail
                let (digits, after) := readDigits signed
                if digits.isEmpty then .error .malformed else .ok after
              else
                .ok rest
          | none => .ok rest
        match peek? afterWhole with
        | some '.' =>
            let (fraction, afterFraction) := readDigits afterWhole.tail
            if fraction.isEmpty then .error .malformed else skipExponent afterFraction
        | _ => skipExponent afterWhole

/-- Reads four hexadecimal digits. -/
def readUnit (bytes : List UInt8) : Reading Nat :=
  let digits := (bytes.take 4).map glyph
  if digits.length < 4 then .error .truncated
  else if digits.all Text.isHexDigit then .ok (Text.ofHex digits, bytes.drop 4)
  else .error .malformed

/--
Reads the code units of an escape behind its letter.  A high surrogate has to be followed by the
escape of a low one, and no low surrogate may stand alone.
-/
def readUnicode (bytes : List UInt8) : Except Fault (Char × List UInt8) := do
  let (unit, rest) ← readUnit bytes
  if 0xdc00 ≤ unit && unit ≤ 0xdfff then
    .error .malformed
  else if unit < 0xd800 || 0xdbff < unit then
    .ok (Char.ofNat unit, rest)
  else
    match rest with
    | [] => .error .truncated
    | backslash :: afterBackslash =>
        if glyph backslash ≠ '\\' then
          .error .malformed
        else
          match afterBackslash with
          | [] => .error .truncated
          | letter :: afterLetter =>
              if glyph letter ≠ 'u' then
                .error .malformed
              else do
                let (low, after) ← readUnit afterLetter
                if low < 0xdc00 || 0xdfff < low then
                  .error .malformed
                else
                  .ok (Char.ofNat ((unit - 0xd800) * 0x400 + (low - 0xdc00) + 0x10000), after)

/-- Reads an escape behind its backslash.  Of a string that is skipped only the form matters. -/
def readEscape (skim : Bool) (bytes : List UInt8) : Reading Char :=
  match bytes with
  | [] => .error .truncated
  | byte :: rest =>
      match glyph byte with
      | '"' => .ok ('"', rest)
      | '\\' => .ok ('\\', rest)
      | '/' => .ok ('/', rest)
      | 'b' => .ok ('\x08', rest)
      | 'f' => .ok ('\x0c', rest)
      | 'n' => .ok ('\n', rest)
      | 'r' => .ok ('\r', rest)
      | 't' => .ok ('\t', rest)
      | 'u' =>
          if skim then (readUnit rest).map fun (_, after) => (' ', after) else readUnicode rest
      | _ => .error .malformed

/-- Reads a string behind its quote, as bytes; `fuel` bounds the number of characters. -/
def readBytes (skim : Bool) : Nat → List UInt8 → Except Fault (List UInt8 × List UInt8)
  | 0, _ => .error .truncated
  | _ + 1, [] => .error .truncated
  | fuel + 1, byte :: rest =>
      if glyph byte = '"' then
        .ok ([], rest)
      else if glyph byte = '\\' then do
        let (character, after) ← readEscape skim rest
        let (more, final) ← readBytes skim fuel after
        .ok (Utf8.encodeChar character ++ more, final)
      else if byte.toNat < 32 then
        .error .malformed
      else do
        let (more, final) ← readBytes skim fuel rest
        .ok (byte :: more, final)

/-- Reads a string behind its quote. -/
def readString (bytes : List UInt8) : Except Fault (Text × List UInt8) := do
  let (content, rest) ← readBytes false (bytes.length + 1) bytes
  match Utf8.decode? content with
  | some text => .ok (text, rest)
  | none => .error .malformed

/-- Reads a string behind its quote whose value does not matter. -/
def skipString (bytes : List UInt8) : Except Fault (List UInt8) :=
  (readBytes true (bytes.length + 1) bytes).map Prod.snd

/-- Arrays and objects may be nested less deep than this. -/
def depthLimit : Nat := 128

/--
Whether another element or member follows.  `opening` says that none has been read yet, and
`closing` is the mark that ends the sequence.
-/
def readSeparator (closing : Char) (opening : Bool) (bytes : List UInt8) : Reading Bool :=
  match skipSpace bytes with
  | [] => .error .truncated
  | byte :: rest =>
      if glyph byte = closing then
        .ok (false, rest)
      else if opening then
        .ok (true, byte :: rest)
      else if glyph byte = ',' then
        match skipSpace rest with
        | [] => .error .truncated
        | next :: after =>
            if glyph next = closing then .error .malformed else .ok (true, next :: after)
      else
        .error .malformed

/-- Reads the quote that a key begins with. -/
def readQuote (bytes : List UInt8) : Except Fault (List UInt8) :=
  match bytes with
  | [] => .error .truncated
  | byte :: rest => if glyph byte = '"' then .ok rest else .error .malformed

/-- Reads the colon behind a key. -/
def readColon (bytes : List UInt8) : Except Fault (List UInt8) :=
  match skipSpace bytes with
  | [] => .error .truncated
  | byte :: rest => if glyph byte = ':' then .ok rest else .error .malformed

mutual

/-- Reads a value that `depth` further levels may nest in. -/
def readValue (depth : Nat) : Nat → List UInt8 → Reading Json
  | 0, _ => .error .truncated
  | fuel + 1, bytes =>
      match skipSpace bytes with
      | [] => .error .truncated
      | byte :: rest =>
          let character := glyph byte
          if character = 'n' then
            (readWord ['u', 'l', 'l'] rest).map fun after => (null, after)
          else if character = 't' then
            (readWord ['r', 'u', 'e'] rest).map fun after => (bool true, after)
          else if character = 'f' then
            (readWord ['a', 'l', 's', 'e'] rest).map fun after => (bool false, after)
          else if character = '-' then
            (readNumber true rest).map fun (value, after) => (number value, after)
          else if character.isDigit then
            (readNumber false (byte :: rest)).map fun (value, after) => (number value, after)
          else if character = '"' then
            (readString rest).map fun (text, after) => (string text, after)
          else if character = '[' then
            if depth ≤ 1 then .error .malformed
            else
              (readElements (depth - 1) true fuel rest).map fun (elements, after) =>
                (array elements, after)
          else if character = '{' then
            if depth ≤ 1 then .error .malformed
            else
              (readMembers (depth - 1) true fuel rest).map fun (members, after) =>
                (object members, after)
          else
            .error .malformed

/-- Reads the elements of an array that are left. -/
def readElements (depth : Nat) (opening : Bool) : Nat → List UInt8 → Reading (List Json)
  | 0, _ => .error .truncated
  | fuel + 1, bytes =>
      match readSeparator ']' opening bytes with
      | .error fault => .error fault
      | .ok (false, rest) => .ok ([], rest)
      | .ok (true, rest) =>
          match readValue depth fuel rest with
          | .error fault => .error fault
          | .ok (element, after) =>
              (readElements depth false fuel after).map fun (elements, final) =>
                (element :: elements, final)

/-- Reads the members of an object that are left. -/
def readMembers (depth : Nat) (opening : Bool) : Nat → List UInt8 → Reading (List (Text × Json))
  | 0, _ => .error .truncated
  | fuel + 1, bytes =>
      match readSeparator '}' opening bytes with
      | .error fault => .error fault
      | .ok (false, rest) => .ok ([], rest)
      | .ok (true, rest) =>
          match (readQuote rest).bind readString with
          | .error fault => .error fault
          | .ok (key, afterKey) =>
              match readColon afterKey with
              | .error fault => .error fault
              | .ok afterColon =>
                  match readValue depth fuel afterColon with
                  | .error fault => .error fault
                  | .ok (value, after) =>
                      (readMembers depth false fuel after).map fun (members, final) =>
                        ((key, value) :: members, final)

end

mutual

/-- Reads a value that does not matter. -/
def skipValue : Nat → List UInt8 → Except Fault (List UInt8)
  | 0, _ => .error .truncated
  | fuel + 1, bytes =>
      match skipSpace bytes with
      | [] => .error .truncated
      | byte :: rest =>
          let character := glyph byte
          if character = 'n' then readWord ['u', 'l', 'l'] rest
          else if character = 't' then readWord ['r', 'u', 'e'] rest
          else if character = 'f' then readWord ['a', 'l', 's', 'e'] rest
          else if character = '-' then skipNumber rest
          else if character.isDigit then skipNumber (byte :: rest)
          else if character = '"' then skipString rest
          else if character = '[' then skipElements true fuel rest
          else if character = '{' then skipMembers true fuel rest
          else .error .malformed

/-- Reads the elements of an array that do not matter. -/
def skipElements (opening : Bool) : Nat → List UInt8 → Except Fault (List UInt8)
  | 0, _ => .error .truncated
  | fuel + 1, bytes =>
      match readSeparator ']' opening bytes with
      | .error fault => .error fault
      | .ok (false, rest) => .ok rest
      | .ok (true, rest) =>
          match skipValue fuel rest with
          | .error fault => .error fault
          | .ok after => skipElements false fuel after

/-- Reads the members of an object that do not matter. -/
def skipMembers (opening : Bool) : Nat → List UInt8 → Except Fault (List UInt8)
  | 0, _ => .error .truncated
  | fuel + 1, bytes =>
      match readSeparator '}' opening bytes with
      | .error fault => .error fault
      | .ok (false, rest) => .ok rest
      | .ok (true, rest) =>
          match ((readQuote rest).bind skipString).bind readColon with
          | .error fault => .error fault
          | .ok afterColon =>
              match skipValue fuel afterColon with
              | .error fault => .error fault
              | .ok after => skipMembers false fuel after

end

/-- Requires that nothing but white space is left. -/
def finish {α : Type} (reading : Reading α) : Except Fault α :=
  match reading with
  | .error fault => .error fault
  | .ok (value, rest) => if (skipSpace rest).isEmpty then .ok value else .error .malformed

/-- Reads a document. -/
def ofBytes (bytes : List UInt8) : Except Fault Json :=
  finish (readValue depthLimit (bytes.length + 2) bytes)

end Json
end ResourceRouting
