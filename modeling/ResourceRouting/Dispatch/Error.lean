import ResourceRouting.Http.Method
import ResourceRouting.Json.Reader
import ResourceRouting.Uri.Build

/-!
# Dispatch errors

Why a request is not answered by a handler, or why a handler rejects it.
-/

namespace ResourceRouting

/-- Why there is no answer. -/
inductive DispatchError
  /-- No resource belongs to the path. -/
  | notFound (path : Text)
  /-- The resource does not have the method; those that it has are listed. -/
  | methodNotAllowed (method : Method) (allowed : List Method)
  /-- No method of the resource reads entities of this kind and subtype. -/
  | unsupportedMediaType (essence : Text)
  /-- No method of the resource writes what the client accepts. -/
  | notAcceptable
  /-- The request is wrong in some other way. -/
  | badRequest (reason : Text)
  /-- A header field holds no media type. -/
  | mediaType (error : MediaTypeError)
  /-- The entity is not the document that is expected. -/
  | entity (fault : Json.Fault)
  /-- The entity has more bytes than allowed. -/
  | entityTooLarge (limit : Nat)
  /-- A URI cannot be built. -/
  | build (error : Uri.BuildError)
  /-- The handler failed. -/
  | internal (reason : Text)
  deriving DecidableEq, Repr

namespace DispatchError

/-- The status code of the answer to the client. -/
def status : DispatchError → Nat
  | notFound _ => 404
  | methodNotAllowed _ _ => 405
  | unsupportedMediaType _ => 415
  | notAcceptable => 406
  | badRequest _ => 400
  | mediaType _ => 400
  | entity _ => 400
  | entityTooLarge _ => 413
  | build _ => 500
  | internal _ => 500

/-- What went wrong, in words. -/
def message : DispatchError → String
  | notFound path => s!"no resource matches {String.ofList path}"
  | methodNotAllowed method _ => s!"method {String.ofList method.name} not allowed"
  | unsupportedMediaType essence => s!"unsupported media type {String.ofList essence}"
  | notAcceptable => "no acceptable representation"
  | badRequest reason => s!"bad request: {String.ofList reason}"
  | mediaType error => s!"malformed media type: {error.message}"
  | entity fault => s!"invalid entity: {fault.message}"
  | entityTooLarge limit => s!"request entity larger than {limit} bytes"
  | build error => s!"failed to build URI: {error.message}"
  | internal reason => s!"internal error: {String.ofList reason}"

/-- Whether no resource belongs to the path. -/
def isNotFound : DispatchError → Bool
  | notFound _ => true
  | _ => false

/-- A path parameter that is no text once its escapes are read. -/
def parameterNotText (name : Text) : DispatchError :=
  badRequest ("path parameter ".toList ++ name ++ " is not valid UTF-8".toList)

/-- A path parameter that was asked for and is not bound. -/
def parameterMissing (name : Text) : DispatchError :=
  badRequest ("missing path parameter ".toList ++ name)

/-- A path parameter that has not the form that was asked for. -/
def parameterInvalid (name value : Text) : DispatchError :=
  badRequest ("invalid path parameter ".toList ++ name ++ [':', ' '] ++ value)

/-- A request whose entity could not be read to its end. -/
def bodyUnreadable (reason : Text) : DispatchError :=
  badRequest ("failed to read request entity: ".toList ++ reason)

end DispatchError
end ResourceRouting
