import ResourceRouting.Dispatch.Error
import ResourceRouting.Http.Headers
import ResourceRouting.Json

/-!
# Responses

What a handler answers: a status code, header fields, and perhaps an entity.
-/

namespace ResourceRouting

/-- The content of a response. -/
inductive Entity
  /-- A JSON document. -/
  | json (value : Json)
  /-- Plain text. -/
  | text (content : Text)
  /-- Bytes without further meaning. -/
  | bytes (content : List UInt8)
  deriving Repr

namespace Entity

/-- The media type of an entity for which no other one is known. -/
def mediaType : Entity → MediaType
  | json _ => .json
  | text _ => .plainText
  | bytes _ => .octetStream

/-- The bytes of an entity; the members of objects are sorted by their keys. -/
def toBytes : Entity → List UInt8
  | json value => Utf8.encode value.sorted.render
  | text content => Utf8.encode content
  | bytes content => content

end Entity

/-- A response. -/
structure Response where
  /-- The status code. -/
  status : Nat
  /-- The header fields. -/
  headers : Headers := {}
  /-- The content. -/
  entity : Option Entity := none
  deriving Repr

namespace Response

/-- A response that all went well. -/
def ok : Response := { status := 200 }

/-- A response that all went well and that there is nothing to send. -/
def noContent : Response := { status := 204 }

/-- A response that a resource has been created at a location. -/
def created (location : Text) : Except DispatchError Response :=
  if Headers.isValue location then
    .ok { status := 201, headers := Headers.empty.insert Headers.location location }
  else
    .error (.internal ("invalid location ".toList ++ Text.quote location ++
      ": failed to parse header value".toList))

/-- The response with a JSON document as its entity. -/
def withJson (response : Response) (value : Json) : Response :=
  { response with entity := some (.json value) }

/-- The response with plain text as its entity. -/
def withText (response : Response) (text : Text) : Response :=
  { response with entity := some (.text text) }

/-- The response with bytes as its entity. -/
def withBytes (response : Response) (bytes : List UInt8) : Response :=
  { response with entity := some (.bytes bytes) }

/-- The response with a header field that replaces others of its name. -/
def withHeader (response : Response) (name value : Text) : Response :=
  { response with headers := response.headers.insert name value }

/-- The media type that the header gives, if it is plain text. -/
def contentType? (response : Response) : Option Text :=
  response.headers.plain? Headers.contentType

end Response
end ResourceRouting
