import ResourceRouting.Percent

/-!
# Components of a URI

Each syntactic part of a URI allows some ASCII characters as they are; all other characters have
to be written as escapes.
-/

namespace ResourceRouting
namespace Uri

/-- A syntactic part of a URI. -/
inductive Component
  /-- The scheme. -/
  | scheme
  /-- The user information before the host. -/
  | userInfo
  /-- The host. -/
  | host
  /-- The port. -/
  | port
  /-- The whole path. -/
  | path
  /-- One segment of the path. -/
  | pathSegment
  /-- The query. -/
  | query
  /-- The fragment. -/
  | fragment
  deriving DecidableEq, Repr

namespace Component

/-- All components. -/
def all : List Component :=
  [.scheme, .userInfo, .host, .port, .path, .pathSegment, .query, .fragment]

/-- The name of a component in messages. -/
def name : Component → String
  | scheme => "scheme"
  | userInfo => "user-info"
  | host => "host"
  | port => "port"
  | path => "path"
  | pathSegment => "path segment"
  | query => "query"
  | fragment => "fragment"

/-- Letters, digits and four marks need no escape anywhere but in a scheme or a port. -/
def isUnreserved (character : Char) : Bool :=
  character.isAlphanum || ['-', '.', '_', '~'].contains character

/-- The marks that may divide a component further. -/
def isSubDelimiter (character : Char) : Bool :=
  ['!', '$', '&', '\'', '(', ')', '*', '+', ',', ';', '='].contains character

/-- Whether a character may stand in a component without an escape. -/
def allows : Component → Char → Bool
  | scheme, character => character.isAlphanum || ['+', '-', '.'].contains character
  | userInfo, character =>
      isUnreserved character || isSubDelimiter character || character = ':'
  | host, character =>
      isUnreserved character || isSubDelimiter character || ['[', ']', ':'].contains character
  | port, character => character.isDigit
  | path, character =>
      isUnreserved character || isSubDelimiter character || [':', '@', '/'].contains character
  | pathSegment, character =>
      isUnreserved character || isSubDelimiter character || [':', '@'].contains character
  | query, character =>
      isUnreserved character || isSubDelimiter character ||
        [':', '@', '/', '?'].contains character
  | fragment, character =>
      isUnreserved character || isSubDelimiter character ||
        [':', '@', '/', '?'].contains character

/-- A character as it is written in a component. -/
def encodeChar (component : Component) (character : Char) : Text :=
  if component.allows character then [character] else Percent.escapeChar character

/-- A value as it is written in a component; percent signs are escaped too. -/
def encode (component : Component) (value : Text) : Text :=
  value.flatMap component.encodeChar

@[simp]
theorem encode_nil (component : Component) : component.encode [] = [] := rfl

@[simp]
theorem encode_cons (component : Component) (character : Char) (value : Text) :
    component.encode (character :: value) =
      component.encodeChar character ++ component.encode value := rfl

@[simp]
theorem encode_append (component : Component) (first second : Text) :
    component.encode (first ++ second) = component.encode first ++ component.encode second := by
  simp [encode]

/-- A text as it is written in a component when escapes that it holds already are kept. -/
def encodeLiteral (component : Component) : Text → Text
  | [] => []
  | '%' :: high :: low :: rest =>
      if Text.isHexDigit high && Text.isHexDigit low then
        '%' :: high :: low :: component.encodeLiteral rest
      else
        component.encodeChar '%' ++ component.encodeLiteral (high :: low :: rest)
  | character :: rest => component.encodeChar character ++ component.encodeLiteral rest

/--
The first character of a value that is neither allowed in the component nor the beginning of an
escape.  The digits of an escape have to be allowed by themselves.
-/
def illegal? (component : Component) : Text → Option Char
  | [] => none
  | character :: rest =>
      if component.allows character || (character = '%' && Percent.beginsWithDigits rest) then
        component.illegal? rest
      else
        some character

end Component
end Uri
end ResourceRouting
