import ResourceRouting.Text

/-!
# Socket addresses

The text of an address and a port: four decimal numbers between points, or eight hexadecimal
groups in brackets, of which one run of zeros may be left out.
-/

namespace ResourceRouting
namespace SocketAddress

/-- Reads one given character. -/
def readChar (expected : Char) : Text → Option Text
  | [] => none
  | character :: rest => if character = expected then some rest else none

/--
Reads a number of at most so many digits and at most a limit, in base ten or sixteen.  Unless
leading zeros are allowed, a number other than zero does not begin with one.
-/
def readNumber
    (hexadecimal : Bool)
    (most : Option Nat)
    (limit : Nat)
    (zeros : Bool)
    (text : Text) :
    Option (Nat × Text) :=
  let isDigit := if hexadecimal then Text.isHexDigit else Char.isDigit
  let digits := text.takeWhile isDigit
  let value := if hexadecimal then Text.ofHex digits else Text.ofDecimal digits
  if digits.isEmpty || most.any (· < digits.length) || limit < value then none
  else if !zeros && digits.head? = some '0' && 1 < digits.length then none
  else some (value, text.dropWhile isDigit)

/-- Reads one of the four numbers of an address. -/
def readOctet (text : Text) : Option Text :=
  (readNumber false (some 3) 255 false text).map Prod.snd

/-- Reads an address of four numbers. -/
def readFour (text : Text) : Option Text := do
  let first ← readOctet text
  let second ← (readChar '.' first).bind readOctet
  let third ← (readChar '.' second).bind readOctet
  (readChar '.' third).bind readOctet

/-- Reads the colon before every group but the first. -/
def readColon (index : Nat) (text : Text) : Option Text :=
  if index = 0 then some text else readChar ':' text

/--
Reads up to `room` groups, of which the last two may be written as four numbers.  The result is
how many groups there are, whether they end in such numbers, and the rest.
-/
def readGroups (index : Nat) (text : Text) : Nat → Nat × Bool × Text
  | 0 => (index, false, text)
  | room + 1 =>
      match (if 0 < room then (readColon index text).bind readFour else none) with
      | some rest => (index + 2, true, rest)
      | none =>
          match (readColon index text).bind (readNumber true (some 4) 65535 true) with
          | some (_, rest) => readGroups (index + 1) rest room
          | none => (index, false, text)

/-- Reads an address of eight groups. -/
def readEight (text : Text) : Option Text :=
  match readGroups 0 text 8 with
  | (8, _, rest) => some rest
  | (_, true, _) => none
  | (count, false, rest) =>
      ((readChar ':' rest).bind (readChar ':')).map fun behind =>
        (readGroups 0 behind (7 - count)).2.2

/-- Reads a port behind its colon. -/
def readPort (text : Text) : Option Text :=
  ((readChar ':' text).bind (readNumber false none 65535 true)).map Prod.snd

/-- Reads a scope behind its percent sign, if there is one. -/
def readScope (text : Text) : Text :=
  match (readChar '%' text).bind (readNumber false none 4294967295 true) with
  | some (_, rest) => rest
  | none => text

/-- Whether a text is an address of four numbers with a port. -/
def isShort (text : Text) : Bool :=
  (readFour text).bind readPort = some []

/-- Whether a text is an address of eight groups in brackets with a port. -/
def isLong (text : Text) : Bool :=
  (((readChar '[' text).bind readEight).bind fun rest =>
    (readChar ']' (readScope rest)).bind readPort) = some []

/-- Whether a text is a socket address. -/
def isValid (text : Text) : Bool :=
  isShort text || isLong text

end SocketAddress
end ResourceRouting
