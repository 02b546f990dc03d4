import ResourceRouting.Number.Shortest
import ResourceRouting.Text

/-!
# JSON values

The values of the data format and their text: compact, or indented by two spaces.
-/

namespace ResourceRouting

/-- A number: an integer, or a binary floating-point number of 64 bits. -/
inductive JsonNumber
  /-- An integer of at most 64 bits. -/
  | int (value : Int)
  /-- A floating-point number. -/
  | float (negative : Bool) (magnitude : Number.Magnitude)
  deriving DecidableEq, Repr

/-- A value. -/
inductive Json
  /-- The null value. -/
  | null
  /-- A truth value. -/
  | bool (value : Bool)
  /-- A number. -/
  | number (value : JsonNumber)
  /-- A string. -/
  | string (text : Text)
  /-- An array. -/
  | array (elements : List Json)
  /-- An object, with its members in the order of its text. -/
  | object (members : List (Text × Json))
  deriving Repr

namespace JsonNumber

/-- A natural number. -/
def ofNat (value : Nat) : JsonNumber := int value

/--
The digits of a floating-point number.  A number whose first digit stands for a power of ten from
minus five to fifteen is written with a point and no exponent, any other one with an exponent.
-/
def floatText (magnitude : Number.Magnitude) : Text :=
  let decimal := Number.Decimal.shortest magnitude
  let digits := Text.decimal decimal.digits
  let leading := decimal.exponent + (digits.length : Int) - 1
  if decimal.digits = 0 then
    ['0', '.', '0']
  else if 0 ≤ decimal.exponent && leading ≤ 15 then
    digits ++ List.replicate decimal.exponent.toNat '0' ++ ['.', '0']
  else if 0 ≤ leading && leading ≤ 15 then
    digits.take (leading + 1).toNat ++ '.' :: digits.drop (leading + 1).toNat
  else if -5 ≤ leading && leading < 0 then
    ['0', '.'] ++ List.replicate (-leading - 1).toNat '0' ++ digits
  else
    let mantissa :=
      match digits with
      | [] => []
      | [only] => [only]
      | first :: rest => first :: '.' :: rest
    let sign := if leading < 0 then '-' else '+'
    mantissa ++ 'e' :: sign :: Text.decimal leading.natAbs

/-- The text of a number. -/
def render : JsonNumber → Text
  | int value => if value < 0 then '-' :: Text.decimal value.natAbs else Text.decimal value.natAbs
  | float negative magnitude =>
      if negative then '-' :: floatText magnitude else floatText magnitude

end JsonNumber

namespace Json

/-- The hexadecimal digits of a control character. -/
def controlEscape (character : Char) : Text :=
  let digits := Nat.toDigits 16 character.toNat
  ['\\', 'u'] ++ List.replicate (4 - digits.length) '0' ++ digits

/-- A character inside a string. -/
def renderChar (character : Char) : Text :=
  if character = '"' then ['\\', '"']
  else if character = '\\' then ['\\', '\\']
  else if character = '\n' then ['\\', 'n']
  else if character = '\r' then ['\\', 'r']
  else if character = '\t' then ['\\', 't']
  else if character = '\x08' then ['\\', 'b']
  else if character = '\x0c' then ['\\', 'f']
  else if character.toNat < 32 then controlEscape character
  else [character]

/-- The text of a string. -/
def renderString (text : Text) : Text :=
  '"' :: text.flatMap renderChar ++ ['"']

/-- Texts with a mark between them. -/
def joinWith (mark : Text) : List Text → Text
  | [] => []
  | [only] => only
  | first :: rest => first ++ mark ++ joinWith mark rest

mutual

/-- The compact text of a value. -/
def render : Json → Text
  | null => ['n', 'u', 'l', 'l']
  | bool true => ['t', 'r', 'u', 'e']
  | bool false => ['f', 'a', 'l', 's', 'e']
  | number value => value.render
  | string text => renderString text
  | array elements => '[' :: joinWith [','] (renderElements elements) ++ [']']
  | object members => '{' :: joinWith [','] (renderMembers members) ++ ['}']

/-- The compact texts of some values. -/
def renderElements : List Json → List Text
  | [] => []
  | element :: rest => element.render :: renderElements rest

/-- The compact texts of some members. -/
def renderMembers : List (Text × Json) → List Text
  | [] => []
  | (key, value) :: rest => (renderString key ++ ':' :: value.render) :: renderMembers rest

end

/-- A line end followed by an indentation of two spaces a level. -/
def lineEnd (level : Nat) : Text :=
  '\n' :: List.replicate (2 * level) ' '

mutual

/-- The text of a value with one element or member a line. -/
def renderPretty (level : Nat) : Json → Text
  | array (first :: rest) =>
      '[' :: lineEnd (level + 1) ++
        joinWith (',' :: lineEnd (level + 1)) (prettyElements (level + 1) (first :: rest)) ++
        lineEnd level ++ [']']
  | object (first :: rest) =>
      '{' :: lineEnd (level + 1) ++
        joinWith (',' :: lineEnd (level + 1)) (prettyMembers (level + 1) (first :: rest)) ++
        lineEnd level ++ ['}']
  | array [] => ['[', ']']
  | object [] => ['{', '}']
  | null => render null
  | bool value => render (bool value)
  | number value => render (number value)
  | string text => render (string text)

/-- The texts of some values, one element or member a line. -/
def prettyElements (level : Nat) : List Json → List Text
  | [] => []
  | element :: rest => renderPretty level element :: prettyElements level rest

/-- The texts of some members, one element or member a line. -/
def prettyMembers (level : Nat) : List (Text × Json) → List Text
  | [] => []
  | (key, value) :: rest =>
      (renderString key ++ ':' :: ' ' :: renderPretty level value) :: prettyMembers level rest

end

/-- The order of keys, by their characters. -/
def keyBefore : Text → Text → Bool
  | [], other => !other.isEmpty
  | _ :: _, [] => false
  | first :: firsts, second :: seconds =>
      if first = second then keyBefore firsts seconds else first.toNat < second.toNat

/-- Puts a member in its place among sorted ones; it replaces a member of the same key. -/
def insertMember (key : Text) (value : Json) : List (Text × Json) → List (Text × Json)
  | [] => [(key, value)]
  | (other, held) :: rest =>
      if key = other then (key, value) :: rest
      else if keyBefore key other then
        (key, value) :: (other, held) :: rest
      else (other, held) :: insertMember key value rest

mutual

/-- The value with the members of every object sorted; of several with one key the last stays. -/
def sorted : Json → Json
  | null => null
  | bool value => bool value
  | number value => number value
  | string text => string text
  | array elements => array (sortedElements elements)
  | object members => object (sortedMembers members [])

/-- Each of some values with its members sorted. -/
def sortedElements : List Json → List Json
  | [] => []
  | element :: rest => element.sorted :: sortedElements rest

/-- Members put among sorted ones in turn. -/
def sortedMembers : List (Text × Json) → List (Text × Json) → List (Text × Json)
  | [], done => done
  | (key, value) :: rest, done => sortedMembers rest (insertMember key value.sorted done)

end

/-- The member of a key; of several with one key the last counts. -/
def member? (value : Json) (key : Text) : Option Json :=
  match value with
  | object members => members.reverse.lookup key
  | _ => none

end Json
end ResourceRouting
