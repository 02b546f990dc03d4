import ResourceRouting.Proofs.Dispatch.Selection
import ResourceRouting.Proofs.MediaType.Compatible
import ResourceRouting.Proofs.Resolution.Target

/-!
# The media type of a response

The media type that the header of a response gives where the handler has set none.  The client
accepts it, unless neither the range of the client nor what the operation declares to write settles
on a type: the type then follows from the entity, whatever the client accepts.
-/

namespace ResourceRouting
namespace Dispatch

open Negotiation

variable {σ : Type}

/-- Where the media type of an entity comes from if its handler has set none. -/
inductive IsLabel
    (accept : Option Text)
    (pairing : Pairing)
    (entity : Entity)
    (media : MediaType) : Prop
  /-- The client accepts a range of the type. -/
  | accepted
      {range : MediaType}
      (accepts : MediaType.Accepts accept range)
      (compatible : media.isCompatible range = true)
  /-- Neither side of the selected pair is a type, and the client does not accept them all. -/
  | unsettled
      (produced : pairing.produced.isConcrete = false)
      (range : pairing.range.IsPartial)
      (default : media = entity.mediaType)

/-- The media type that a pair settles on is compatible with its range. -/
theorem isCompatible_of_mediaType?
    {pairing : Pairing}
    {media : MediaType}
    (fits : pairing.produced.isCompatible pairing.range = true)
    (settled : pairing.mediaType? = some media) :
    media.isCompatible pairing.range = true := by
  rw [Pairing.mediaType?] at settled
  split at settled
  · cases settled
    exact fits
  · split at settled
    · cases settled
      exact MediaType.isCompatible_withoutParameters pairing.range
    · cases settled

/-- A pair that settles on no media type is one of two ranges. -/
theorem mediaType?_eq_none_iff {pairing : Pairing} :
    pairing.mediaType? = none ↔
      pairing.produced.isConcrete = false ∧ pairing.range.isConcrete = false := by
  rw [Pairing.mediaType?]
  cases pairing.produced.isConcrete <;> cases pairing.range.isConcrete <;> simp

/-- The range of a selected pair is accepted, and the type that is written fits it. -/
theorem accepts_of_select
    {settings : DispatchSettings}
    {operations : List (Operation σ)}
    {request : Request}
    {selection : Selection σ}
    (selected : select settings operations request = .ok (some selection)) :
    MediaType.Accepts (request.headers.plain? Headers.accept) selection.pairing.range ∧
      selection.pairing.produced.isCompatible selection.pairing.range = true := by
  obtain ⟨_, _, _, listed, best⟩ := isBest_of_select selected
  have isPair := best.negotiated.isPair
  exact ⟨(MediaType.mem_accepted_iff listed).mp isPair.listed, isPair.fits⟩

/-- What a selection settles on, or else the media type of the entity, labels the entity. -/
theorem isLabel_of_select
    {settings : DispatchSettings}
    {operations : List (Operation σ)}
    {request : Request}
    {selection : Selection σ}
    (selected : select settings operations request = .ok (some selection))
    (entity : Entity) :
    IsLabel (request.headers.plain? Headers.accept) selection.pairing entity
      (selection.pairing.mediaType?.getD entity.mediaType) := by
  obtain ⟨accepts, fits⟩ := accepts_of_select selected
  cases settled : selection.pairing.mediaType? with
  | some media => exact .accepted accepts (isCompatible_of_mediaType? fits settled)
  | none =>
      obtain ⟨producedOpen, rangeOpen⟩ := mediaType?_eq_none_iff.mp settled
      rcases MediaType.isStar_or_isPartial rangeOpen with ⟨anyKind, anySubtype⟩ | limited
      · exact .accepted accepts (MediaType.isCompatible_of_star anyKind anySubtype _)
      · exact .unsettled producedOpen limited rfl

/-- Labelling leaves the entity as it is. -/
theorem entity_labelled (negotiated : Option MediaType) (given : Response) :
    (labelled negotiated given).entity = given.entity := by
  rw [labelled]
  split <;> rfl

/-- A response with an entity is that of the selected handler, labelled. -/
theorem exists_handler_of_run
    {settings : DispatchSettings}
    {target : Target σ}
    {request : Request}
    {state after : σ}
    {response : Response}
    {entity : Entity}
    (answered : run settings target request state = (.ok response, after))
    (content : response.entity = some entity) :
    ∃ (selection : Selection σ) (given : Response),
      select settings target.operations request = .ok (some selection) ∧
        selection.operation.handler request state = (.ok given, after) ∧
        response = labelled selection.pairing.mediaType? given := by
  rw [run] at answered
  split at answered
  · cases answered
  · -- the automatic answer to `OPTIONS` has no entity
    cases answered
    cases content
  · rename_i selection selected
    cases handled : selection.operation.handler request state with
    | mk outcome final =>
        rw [handled] at answered
        cases outcome with
        | error error => cases answered
        | ok given =>
            cases answered
            exact ⟨selection, given, selected, handled, rfl⟩

/-- A successful dispatch has found a target, whose operations answer the request. -/
theorem exists_run_of_dispatch?
    {dispatcher : Dispatcher σ}
    {limit : Nat}
    {request : Request}
    {state : σ}
    {done : Dispatched σ}
    {response : Response}
    (dispatched : dispatcher.dispatch? limit request state = some done)
    (succeeded : done.outcome = .ok response) :
    ∃ target : Target σ,
      Resolution.resolve? dispatcher.resources dispatcher.directory
          dispatcher.settings.decodesParameters state limit request =
        some (done.request, .ok target) ∧
      run dispatcher.settings target done.request state = (.ok response, done.state) := by
  rw [Dispatcher.dispatch?, Option.map_eq_some_iff] at dispatched
  obtain ⟨⟨bound, resolved⟩, resolves, rfl⟩ := dispatched
  cases resolved with
  | error error => cases succeeded
  | ok target => exact ⟨target, resolves, Prod.ext succeeded rfl⟩

/--
The header of a dispatched entity, whose handler has set no media type, gives one that the client
accepts, or that of the entity if the client and the operation both leave it open.
-/
theorem contentType_isLabel
    {dispatcher : Dispatcher σ}
    {limit : Nat}
    {request : Request}
    {state : σ}
    {done : Dispatched σ}
    {response : Response}
    {entity : Entity}
    (dispatched : dispatcher.dispatch? limit request state = some done)
    (succeeded : done.outcome = .ok response)
    (content : response.entity = some entity) :
    ∃ (target : Target σ) (selection : Selection σ) (given : Response),
      Resolution.resolve? dispatcher.resources dispatcher.directory
          dispatcher.settings.decodesParameters state limit request =
        some (done.request, .ok target) ∧
      select dispatcher.settings target.operations done.request = .ok (some selection) ∧
      selection.operation.handler done.request state = (.ok given, done.state) ∧
      (given.contentType? = none →
        ∃ media,
          response = given.withHeader Headers.contentType media.render ∧
          response.headers.get? Headers.contentType = some media.render ∧
          IsLabel (request.headers.plain? Headers.accept) selection.pairing entity media) := by
  obtain ⟨target, resolves, answered⟩ := exists_run_of_dispatch? dispatched succeeded
  obtain ⟨selection, given, selected, handled, rfl⟩ := exists_handler_of_run answered content
  refine ⟨target, selection, given, resolves, selected, handled, ?_⟩
  intro unset
  rw [entity_labelled] at content
  have labels := isLabel_of_select selected entity
  obtain ⟨parameters, bound⟩ := (Resolution.isTargetOf_of_resolve? resolves).parameters
  rw [bound] at labels
  refine ⟨_, ?_, ?_, labels⟩
  · simp only [labelled, content, unset]
  · simp only [labelled, content, unset, Response.withHeader, Headers.get?_insert]

/-- An operation that answers with a JSON document and says nothing of media types. -/
def answering : Operation Unit where
  method := .get
  handler _ state := (.ok (Response.ok.withJson .null), state)

/-- A request for whatever a header accepts. -/
def acceptRequest (accept : Text) : Request where
  method := .get
  path := "/a".toList
  headers := ⟨[(Headers.accept, accept)]⟩

/-- There is a resource that dispatches these requests to this operation. -/
theorem exists_dispatch?_answering :
    ∃ resource : Resource Unit,
      resource.IsDeclared ∧
        ∀ accept,
          Resolution.resolve? [resource] (fun _ => none) true () 0 (acceptRequest accept) =
              some (acceptRequest accept,
                .ok ⟨resource, [answering], resource.pattern.text⟩) ∧
            Dispatcher.dispatch? ⟨[resource], fun _ => none, {}⟩ 0 (acceptRequest accept) () =
              some ⟨acceptRequest accept,
                (run {} ⟨resource, [answering], resource.pattern.text⟩
                  (acceptRequest accept) ()).1,
                (), false⟩ := by
  obtain ⟨resource, declared, resolves⟩ :=
    @Resolution.exists_resolve?_of_match? Unit "/a".toList "/a".toList (by decide +kernel)
      [answering] (List.cons_ne_nil _ _) (by decide)
  refine ⟨resource, declared, ?_⟩
  intro accept
  have resolved := resolves (fun _ => none) true () 0 (acceptRequest accept) rfl
  refine ⟨resolved, ?_⟩
  simp only [Dispatcher.dispatch?, resolved, Option.map_some]

/-- Of two ranges the client prefers the second one, whose type labels the document. -/
theorem contentType_isLabel_json :
    ∃ (resource : Resource Unit) (done : Dispatched Unit) (response : Response) (entity : Entity)
      (pairing : Pairing) (media : MediaType),
      resource.IsDeclared ∧
        Dispatcher.dispatch? ⟨[resource], fun _ => none, {}⟩ 0
          (acceptRequest "text/*;q=0.5, application/json;q=0.7".toList) () = some done ∧
        done.outcome = .ok response ∧
        response.entity = some entity ∧
        response.headers.get? Headers.contentType = some media.render ∧
        IsLabel (some "text/*;q=0.5, application/json;q=0.7".toList) pairing entity media := by
  obtain ⟨resource, declared, answers⟩ := exists_dispatch?_answering
  obtain ⟨resolved, dispatched⟩ := answers "text/*;q=0.5, application/json;q=0.7".toList
  obtain ⟨target, selection, given, resolves, selected, handled, labels⟩ :=
    contentType_isLabel dispatched rfl rfl
  -- the target, the selection and the response of the handler are those that were found
  have found := resolved.symm.trans resolves
  cases found
  cases selected
  cases handled
  obtain ⟨media, _, header, label⟩ := labels rfl
  exact ⟨resource, _, _, _, _, media, declared, dispatched, rfl, rfl, header, label⟩

/-- A client that accepts types of one kind only is sent a document of another kind. -/
theorem contentType_not_accepted :
    ∃ (resource : Resource Unit) (target : Target Unit) (done : Dispatched Unit)
      (given response : Response),
      resource.IsDeclared ∧
        Resolution.resolve? [resource] (fun _ => none) true () 0
          (acceptRequest "text/*".toList) = some (acceptRequest "text/*".toList, .ok target) ∧
        target.operations = [answering] ∧
        answering.handler (acceptRequest "text/*".toList) () = (.ok given, ()) ∧
        given.contentType? = none ∧
        Dispatcher.dispatch? ⟨[resource], fun _ => none, {}⟩ 0 (acceptRequest "text/*".toList) () =
          some done ∧
        done.outcome = .ok response ∧
        response.entity = some (.json .null) ∧
        response.headers.get? Headers.contentType = some MediaType.json.render ∧
        ∀ range,
          MediaType.Accepts ((acceptRequest "text/*".toList).headers.plain? Headers.accept) range →
            MediaType.json.isCompatible range = false := by
  obtain ⟨resource, declared, answers⟩ := exists_dispatch?_answering
  obtain ⟨resolved, dispatched⟩ := answers "text/*".toList
  refine ⟨resource, _, _, Response.ok.withJson .null, _, declared, resolved, rfl, rfl, rfl,
    dispatched, rfl, rfl, rfl, ?_⟩
  intro range accepts
  have listed : MediaType.accepted (some "text/*".toList) =
      .ok [.plain "text".toList MediaType.star] := rfl
  obtain rfl := List.mem_singleton.mp ((MediaType.mem_accepted_iff listed).mpr accepts)
  rfl

end Dispatch
end ResourceRouting
