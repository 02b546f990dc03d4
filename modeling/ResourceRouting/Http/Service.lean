import ResourceRouting.Dispatch
import ResourceRouting.Http.Counters
import ResourceRouting.Http.RequestTarget

/-!
# Service over HTTP

Turns what arrives on the wire into a request, dispatches it, and turns the outcome into what is
sent.  Every request gets an identifier, its entity is read up to a limit, and every answer is
counted.
-/

namespace ResourceRouting

/-- The entity of a request as it arrives. -/
inductive Inflow
  /-- All bytes arrive. -/
  | whole (bytes : List UInt8)
  /-- Some bytes arrive before the connection breaks, for a reason. -/
  | broken (bytes : List UInt8) (reason : Text)
  deriving DecidableEq, Repr

/-- A request as it arrives. -/
structure WireRequest where
  /-- The request method. -/
  method : Method
  /-- What is asked for. -/
  target : RequestTarget
  /-- The header fields. -/
  headers : Headers
  /-- The entity. -/
  inflow : Inflow
  deriving DecidableEq, Repr

/-- A response as it is sent. -/
structure WireResponse where
  /-- The status code. -/
  status : Nat
  /-- The header fields. -/
  headers : Headers
  /-- The bytes of the entity. -/
  body : List UInt8
  deriving DecidableEq, Repr

namespace Inflow

/-- The bytes of an entity, if they all arrive and are not too many. -/
def read (limit : Nat) : Inflow → Except DispatchError (List UInt8)
  | whole bytes => if limit < bytes.length then .error (.entityTooLarge limit) else .ok bytes
  | broken bytes reason =>
      if limit < bytes.length then .error (.entityTooLarge limit)
      else .error (.bodyUnreadable reason)

end Inflow

namespace WireRequest

/-- The request with an identifier in its header, which is the given one if it brings none. -/
def identified (wire : WireRequest) (identifier : Text) : WireRequest :=
  if wire.headers.contains Headers.requestId then wire
  else { wire with headers := wire.headers.insert Headers.requestId identifier }

/-- The request that is dispatched, if its entity can be read. -/
def read (wire : WireRequest) (limit : Nat) : Except DispatchError Request :=
  (wire.inflow.read limit).map fun body =>
    { method := wire.method
      path := wire.target.path
      query := (wire.target.query.map Form.read).getD []
      headers := wire.headers
      body := body
      id := wire.headers.plain? Headers.requestId }

end WireRequest

namespace WireResponse

/-- What is sent for a response. -/
def ofResponse (response : Response) : WireResponse :=
  ⟨response.status, response.headers, (response.entity.map Entity.toBytes).getD []⟩

/-- What is sent for an error: its message, and the allowed methods if the method was wrong. -/
def ofError (error : DispatchError) : WireResponse :=
  let headers := Headers.empty.insert Headers.contentType MediaType.plainText.render
  let body := Utf8.encode error.message.toList
  match error with
  | .methodNotAllowed _ allowed =>
      ⟨error.status, headers.insert Headers.allow (Method.join allowed), body⟩
  | _ => ⟨error.status, headers, body⟩

/-- What is sent for an outcome. -/
def ofOutcome : Except DispatchError Response → WireResponse
  | .ok response => ofResponse response
  | .error error => ofError error

/-- What is sent for a target that is no path. -/
def nowhere : WireResponse := ⟨404, {}, []⟩

/-- The response without its entity. -/
def withoutBody (wire : WireResponse) : WireResponse :=
  { wire with body := [] }

/-- The response with the identifier of the request in its header, unless it has one. -/
def identified (wire : WireResponse) (identifier : Option Text) : WireResponse :=
  match identifier with
  | some value =>
      if wire.headers.contains Headers.requestId then wire
      else { wire with headers := wire.headers.insert Headers.requestId value }
  | none => wire

/-- The response with the length of its entity in its header, unless it has one. -/
def measured (wire : WireResponse) : WireResponse :=
  if wire.headers.contains Headers.contentLength then wire
  else
    { wire with
      headers := wire.headers.insert Headers.contentLength (Text.decimal wire.body.length) }

/-- Whether the status code says that all went well. -/
def isSuccess (wire : WireResponse) : Bool :=
  200 ≤ wire.status && wire.status < 300

/--
The response as it leaves.  A tunnel that is opened has neither entity nor length, and the answer
to a `HEAD` request has no entity.
-/
def departing (wire : WireResponse) (method : Method) : WireResponse :=
  if method = .connect && wire.isSuccess then wire.withoutBody
  else if method = .head then wire.measured.withoutBody
  else wire.measured

end WireResponse

/-- What has become of a request that arrived. -/
structure Served (σ : Type) where
  /-- The response that is sent. -/
  response : WireResponse
  /-- The state of the handlers. -/
  state : σ
  /-- The counters. -/
  counters : Counters

namespace Service

variable {σ : Type}

/-- Counts a path that led to no resource, if it did. -/
def countPath (counters : Counters) (unmatched : Bool) : Counters :=
  if unmatched then counters.countUnmatched else counters

/-- The answer to a request and its effects, before anything is added to it. -/
structure Handled (σ : Type) where
  /-- The response, or why there is none. -/
  outcome : Except DispatchError Response
  /-- The state of the handlers. -/
  state : σ
  /-- Whether no resource was found for the path. -/
  unmatched : Bool

/-- Reads a request and dispatches it. -/
def handle?
    (dispatcher : Dispatcher σ)
    (limit : Nat)
    (wire : WireRequest)
    (state : σ) :
    Option (Handled σ) :=
  match wire.read dispatcher.settings.entityLimit with
  | .error error => some ⟨.error error, state, false⟩
  | .ok request =>
      (dispatcher.dispatch? limit request state).map fun dispatched =>
        ⟨dispatched.outcome, dispatched.state, dispatched.unmatched⟩

/-- Answers a request to a path and counts it.  The answer to `HEAD` loses its entity. -/
def answer?
    (dispatcher : Dispatcher σ)
    (limit : Nat)
    (wire : WireRequest)
    (state : σ)
    (counters : Counters) :
    Option (Served σ) :=
  (handle? dispatcher limit wire state).map fun handled =>
    let response := WireResponse.ofOutcome handled.outcome
    let shown := if wire.method = .head then response.withoutBody else response
    ⟨shown, handled.state,
      (countPath counters handled.unmatched).countRequest ⟨wire.method, response.status⟩⟩

/-- Whether a target is a path; others lead nowhere. -/
def isRouted (target : RequestTarget) : Bool :=
  target.path.head? = some '/'

/--
Serves a request.  `identifier` is used for a request that brings none.  There is no answer if
more than `limit` locators would have to be followed.
-/
def serve?
    (dispatcher : Dispatcher σ)
    (limit : Nat)
    (identifier : Text)
    (wire : WireRequest)
    (state : σ)
    (counters : Counters) :
    Option (Served σ) :=
  let incoming := wire.identified identifier
  let finish (response : WireResponse) : WireResponse :=
    (response.identified (incoming.headers.get? Headers.requestId)).departing wire.method
  if isRouted wire.target then
    (answer? dispatcher limit incoming state counters).map fun served =>
      { served with response := finish served.response }
  else
    some ⟨finish .nowhere, state, counters⟩

end Service
end ResourceRouting
