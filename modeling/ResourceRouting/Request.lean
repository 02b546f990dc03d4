import ResourceRouting.Form
import ResourceRouting.Http.Headers
import ResourceRouting.Http.Method
import ResourceRouting.PathParameters

/-!
# Requests

What a handler or a locator may read of a request, with the path parameters that have been bound
so far.
-/

namespace ResourceRouting

/-- A request. -/
structure Request where
  /-- The request method. -/
  method : Method
  /-- The path as it was sent. -/
  path : Text
  /-- The names and values of the query. -/
  query : List (Text × Text) := []
  /-- The header fields. -/
  headers : Headers := {}
  /-- The entity. -/
  body : List UInt8 := []
  /-- The path parameters. -/
  parameters : PathParameters := {}
  /-- What identifies the request. -/
  id : Option Text := none
  deriving DecidableEq, Repr

namespace Request

/-- The first value of a name in the query. -/
def queryValue? (request : Request) (name : Text) : Option Text :=
  request.query.lookup name

/-- All values of a name in the query. -/
def queryValues (request : Request) (name : Text) : List Text :=
  (request.query.filter (·.1 = name)).map Prod.snd

/-- The innermost path parameter of a name. -/
def parameter? (request : Request) (name : Text) : Option Text :=
  request.parameters.get? name

/-- The request with one more path parameter. -/
def bind (request : Request) (name value : Text) : Request :=
  { request with parameters := request.parameters.push name value }

/-- The media type of the entity, if the header gives one in plain text. -/
def contentType (request : Request) : Except MediaTypeError (Option MediaType) :=
  match request.headers.plain? Headers.contentType with
  | none => .ok none
  | some value => (MediaType.read value).map some

end Request
end ResourceRouting
