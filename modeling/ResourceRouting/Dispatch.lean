import ResourceRouting.Dispatch.Negotiation
import ResourceRouting.Resolution

/-!
# Dispatch

Finds the operation for a request by its path, its method, the media type of its entity and the
media ranges that the client accepts, and runs the handler.
-/

namespace ResourceRouting

/-- How requests are dispatched. -/
structure DispatchSettings where
  /-- Whether path parameters are percent-decoded. -/
  decodesParameters : Bool := true
  /-- The greatest number of bytes of an entity. -/
  entityLimit : Nat := 1048576
  /-- Whether `GET` operations answer `HEAD` requests for which there is no operation. -/
  headFallback : Bool := true
  /-- Whether `OPTIONS` requests for which there is no operation are answered. -/
  automaticOptions : Bool := true
  deriving DecidableEq, Repr

namespace Dispatch

variable {σ : Type}

/-- The operations of a method among some operations. -/
def withMethod (operations : List (Operation σ)) (method : Method) : List (Operation σ) :=
  operations.filter fun operation => operation.method = method

/-- The operations that a method may use: its own, or those for `GET` in place of `HEAD`. -/
def forMethod
    (settings : DispatchSettings)
    (operations : List (Operation σ))
    (method : Method) :
    List (Operation σ) :=
  let own := withMethod operations method
  if own.isEmpty && method = .head && settings.headFallback then
    withMethod operations .get
  else
    own

/-- The methods that some operations answer: their own in order, and then the fallbacks. -/
def allowedMethods (settings : DispatchSettings) (operations : List (Operation σ)) :
    List Method :=
  let declared := operations.map (·.method)
  let head : List Method :=
    if settings.headFallback && declared.contains .get then [.head] else []
  let options : List Method := if settings.automaticOptions then [.options] else []
  (declared ++ head ++ options).foldl (fun methods method =>
    if methods.contains method then methods else methods ++ [method]) []

/-- Whether an operation reads entities of a media type. -/
def reads (media : MediaType) (operation : Operation σ) : Bool :=
  operation.consumes.isEmpty || operation.consumes.any (·.isCompatible media)

/-- An operation with the pair of media types that speaks for it. -/
structure Selection (σ : Type) where
  /-- The operation. -/
  operation : Operation σ
  /-- The best pair of an accepted range and a produced type. -/
  pairing : Negotiation.Pairing

/-- The operations that write what the client accepts. -/
def acceptable (accepted : List MediaType) (operations : List (Operation σ)) :
    List (Selection σ) :=
  operations.filterMap fun operation =>
    (Negotiation.negotiate operation.produces accepted).map fun pairing => ⟨operation, pairing⟩

/-- The best of the operations that write what the client accepts. -/
def mostAcceptable (accepted : List MediaType) (operations : List (Operation σ)) :
    Option (Selection σ) :=
  Choice.firstBest (fun next held => next.pairing.score.exceeds held.pairing.score)
    (acceptable accepted operations)

/--
Selects the operation for a request.  No operation is selected for an `OPTIONS` request that is
to be answered with the allowed methods.
-/
def select
    (settings : DispatchSettings)
    (operations : List (Operation σ))
    (request : Request) :
    Except DispatchError (Option (Selection σ)) :=
  let candidates := forMethod settings operations request.method
  if candidates.isEmpty then
    if request.method = .options && settings.automaticOptions then
      .ok none
    else
      .error (.methodNotAllowed request.method (allowedMethods settings operations))
  else
    match request.contentType with
    | .error error => .error (.mediaType error)
    | .ok declared =>
        let media := declared.getD .wildcard
        let readers := candidates.filter (reads media)
        if readers.isEmpty then
          .error (.unsupportedMediaType media.essence)
        else
          match MediaType.accepted (request.headers.plain? Headers.accept) with
          | .error error => .error (.mediaType error)
          | .ok accepted =>
              match mostAcceptable accepted readers with
              | none => .error .notAcceptable
              | some selection => .ok (some selection)

/-- The answer that lists the allowed methods. -/
def optionsResponse (settings : DispatchSettings) (operations : List (Operation σ)) : Response :=
  Response.ok.withHeader Headers.allow (Method.join (allowedMethods settings operations))

/--
A response with the media type of its entity in the header.  Without an entity, or where the
handler has set a media type, nothing is changed.
-/
def labelled (negotiated : Option MediaType) (response : Response) : Response :=
  match response.entity, response.contentType? with
  | some entity, none =>
      response.withHeader Headers.contentType (negotiated.getD entity.mediaType).render
  | _, _ => response

/-- Runs the operation for a request whose path has been resolved. -/
def run
    (settings : DispatchSettings)
    (target : Target σ)
    (request : Request)
    (state : σ) :
    Except DispatchError Response × σ :=
  match select settings target.operations request with
  | .error error => (.error error, state)
  | .ok none => (.ok (optionsResponse settings target.operations), state)
  | .ok (some selection) =>
      let (outcome, after) := selection.operation.handler request state
      (outcome.map (labelled selection.pairing.mediaType?), after)

end Dispatch

/-- What serves requests: resources, and how they are dispatched. -/
structure Dispatcher (σ : Type) where
  /-- The root resources. -/
  resources : List (Resource σ)
  /-- The resources that locators can find. -/
  directory : Directory σ
  /-- How requests are dispatched. -/
  settings : DispatchSettings := {}

/-- What has become of a request. -/
structure Dispatched (σ : Type) where
  /-- The request with its path parameters. -/
  request : Request
  /-- The response, or why there is none. -/
  outcome : Except DispatchError Response
  /-- The state of the handlers. -/
  state : σ
  /-- Whether no resource was found for the path. -/
  unmatched : Bool

namespace Dispatcher

variable {σ : Type}

/-- Dispatches a request, unless more than `limit` locators would have to be followed. -/
def dispatch? (dispatcher : Dispatcher σ) (limit : Nat) (request : Request) (state : σ) :
    Option (Dispatched σ) :=
  (Resolution.resolve? dispatcher.resources dispatcher.directory
    dispatcher.settings.decodesParameters state limit request).map fun (bound, resolved) =>
      match resolved with
      | .error error => ⟨bound, .error error, state, error.isNotFound⟩
      | .ok target =>
          let (outcome, after) := Dispatch.run dispatcher.settings target bound state
          ⟨bound, outcome, after, false⟩

end Dispatcher
end ResourceRouting
