import ResourceRouting.Http.Service
import ResourceRouting.Proofs.Dispatch.Head
import ResourceRouting.Proofs.Resolution.Target

/-!
# `HEAD` over HTTP

A `HEAD` request that falls back to the operations for `GET` is answered with the status and the
header fields of the answer to the `GET` request, and without an entity.  The length is an
exception: the entity is dropped before its length is taken, so that a length which the handler
has not set is that of the empty entity.
-/

namespace ResourceRouting

variable {σ : Type}

namespace WireRequest

/-- The request with the method `HEAD`. -/
def asHead (wire : WireRequest) : WireRequest :=
  { wire with method := .head }

/-- The request brings its own identifier. -/
def BringsIdentifier (wire : WireRequest) : Prop :=
  wire.headers.contains Headers.requestId = true

theorem identified_asHead (wire : WireRequest) (identifier : Text) :
    wire.asHead.identified identifier = (wire.identified identifier).asHead := by
  by_cases brings : wire.headers.contains Headers.requestId <;> simp [identified, asHead, brings]

theorem identified_of_bringsIdentifier
    {wire : WireRequest}
    (brings : wire.BringsIdentifier)
    (identifier : Text) :
    wire.identified identifier = wire := by
  rw [BringsIdentifier] at brings
  rw [identified, if_pos brings]

theorem identified_of_not_bringsIdentifier
    {wire : WireRequest}
    (lacks : ¬wire.BringsIdentifier)
    (identifier : Text) :
    wire.identified identifier =
      { wire with headers := wire.headers.insert Headers.requestId identifier } := by
  rw [BringsIdentifier] at lacks
  rw [identified, if_neg lacks]

@[simp]
theorem method_identified (wire : WireRequest) (identifier : Text) :
    (wire.identified identifier).method = wire.method := by
  rw [identified]
  split <;> rfl

@[simp]
theorem target_identified (wire : WireRequest) (identifier : Text) :
    (wire.identified identifier).target = wire.target := by
  rw [identified]
  split <;> rfl

/-- An identified request has an identifier. -/
theorem exists_get?_identified (wire : WireRequest) (identifier : Text) :
    ∃ value, (wire.identified identifier).headers.get? Headers.requestId = some value := by
  by_cases brings : wire.BringsIdentifier
  · rw [identified_of_bringsIdentifier brings]
    exact Option.isSome_iff_exists.mp brings
  · rw [identified_of_not_bringsIdentifier brings]
    exact ⟨identifier, Headers.get?_insert ..⟩

theorem read_asHead (wire : WireRequest) (limit : Nat) :
    wire.asHead.read limit = (wire.read limit).map Request.asHead := by
  simp only [read, asHead]
  cases wire.inflow.read limit <;> rfl

/-- The request that is read has the method of the request that arrived. -/
theorem method_of_read
    {wire : WireRequest}
    {limit : Nat}
    {request : Request}
    (result : wire.read limit = .ok request) :
    request.method = wire.method := by
  rw [read] at result
  cases body : wire.inflow.read limit with
  | error error =>
      rw [body] at result
      cases result
  | ok bytes =>
      rw [body] at result
      cases result
      rfl

/-- With another identifier the request that is read differs in the identifier only. -/
theorem read_identified_of_not_bringsIdentifier
    {wire : WireRequest}
    (lacks : ¬wire.BringsIdentifier)
    (limit : Nat)
    (identifier other : Text) :
    (wire.identified other).read limit =
      ((wire.identified identifier).read limit).map (Request.renamed other) := by
  rw [identified_of_not_bringsIdentifier lacks, identified_of_not_bringsIdentifier lacks]
  simp only [read]
  cases wire.inflow.read limit with
  | error error => rfl
  | ok body =>
      simp only [Except.map, Request.renamed, Headers.insert_insert, Headers.plain?,
        Headers.get?_insert]

end WireRequest

namespace WireResponse

theorem identified_some (wire : WireResponse) (identifier : Text) :
    wire.identified (some identifier) =
      { wire with headers := wire.headers.supply Headers.requestId identifier } := by
  simp only [identified, Headers.supply]
  split <;> rfl

theorem measured_eq (wire : WireResponse) :
    wire.measured =
      { wire with
        headers := wire.headers.supply Headers.contentLength (Text.decimal wire.body.length) } := by
  simp only [measured, Headers.supply]
  split <;> rfl

end WireResponse

namespace Service

/-- The answer to a request before its identifier and its length are added. -/
def unfinished?
    (dispatcher : Dispatcher σ)
    (limit : Nat)
    (wire : WireRequest)
    (state : σ) :
    Option WireResponse :=
  if isRouted wire.target then
    (handle? dispatcher limit wire state).map fun handled => .ofOutcome handled.outcome
  else
    some .nowhere

/--
How the answer to `HEAD` corresponds to the answer to `GET`.  `unfinished` is the answer to `GET`
before its identifier and its length were added; with `alike` both requests had one identifier.
-/
structure Mirrors (unfinished : WireResponse) (alike : Prop) (read head : Served σ) : Prop where
  /-- The status codes are equal. -/
  status : head.response.status = read.response.status
  /-- There is no entity. -/
  body : head.response.body = []
  /-- The handlers are left in the same state. -/
  state : head.state = read.state
  /-- The other header fields are equal. -/
  headers : ∀ name,
    Text.lowerAscii name ≠ Headers.contentLength → Text.lowerAscii name ≠ Headers.requestId →
      head.response.headers.values name = read.response.headers.values name
  /-- The identifiers are equal. -/
  identifier : alike →
    head.response.headers.values Headers.requestId = read.response.headers.values Headers.requestId
  /-- A length that was set before stays. -/
  lengthSet : unfinished.headers.contains Headers.contentLength = true →
    head.response.headers.values Headers.contentLength =
      read.response.headers.values Headers.contentLength
  /-- A length that is added to the answer to `HEAD` is that of the empty entity. -/
  lengthAdded : unfinished.headers.contains Headers.contentLength = false →
    read.response.headers.values Headers.contentLength =
        [Text.decimal read.response.body.length] ∧
      head.response.headers.values Headers.contentLength = [Text.decimal 0]

/-- Two requests that differ in their identifiers only are handled alike. -/
theorem handle?_identified
    {dispatcher : Dispatcher σ}
    {wire : WireRequest}
    {state : σ}
    {identifier other : Text}
    (alike : wire.BringsIdentifier ∨ identifier = other ∨
      ∀ resource,
        Resolution.IsReachable dispatcher.resources dispatcher.directory state resource →
          resource.IsBlindTo (Request.renamed other))
    (limit : Nat) :
    handle? dispatcher limit (wire.identified other) state =
      handle? dispatcher limit (wire.identified identifier) state := by
  by_cases brings : wire.BringsIdentifier
  · simp only [WireRequest.identified_of_bringsIdentifier brings]
  rcases alike with brought | rfl | blind
  · exact absurd brought brings
  · rfl
  · rw [handle?, handle?,
      WireRequest.read_identified_of_not_bringsIdentifier brings _ identifier other]
    cases (wire.identified identifier).read dispatcher.settings.entityLimit with
    | error error => rfl
    | ok request =>
        simp only [Except.map]
        rw [Dispatcher.dispatch?_disguised (Request.isDisguise_renamed other) blind fun _ _ _ =>
            Dispatch.select_renamed .., Option.map_map]
        rfl

/-- A `HEAD` request that falls back is handled as the `GET` request is. -/
theorem handle?_asHead
    {dispatcher : Dispatcher σ}
    {limit : Nat}
    {wire : WireRequest}
    {state : σ}
    (fallback : dispatcher.settings.headFallback = true)
    (get : wire.method = .get)
    (blind : ∀ resource,
      Resolution.IsReachable dispatcher.resources dispatcher.directory state resource →
        resource.IsBlindTo Request.asHead)
    (fallsBack : ∀ request bound target,
      wire.read dispatcher.settings.entityLimit = .ok request →
        Resolution.resolve? dispatcher.resources dispatcher.directory
            dispatcher.settings.decodesParameters state limit request =
          some (bound, .ok target) →
        Dispatch.FallsBack target.operations) :
    handle? dispatcher limit wire.asHead state = handle? dispatcher limit wire state := by
  rw [handle?, handle?, WireRequest.read_asHead]
  cases reading : wire.read dispatcher.settings.entityLimit with
  | error error => rfl
  | ok request =>
      simp only [Except.map]
      have selects : ∀ bound target,
          Resolution.resolve? dispatcher.resources dispatcher.directory
              dispatcher.settings.decodesParameters state limit request =
            some (bound, .ok target) →
          Dispatch.select dispatcher.settings target.operations bound.asHead =
            Dispatch.select dispatcher.settings target.operations bound := by
        intro bound target resolved
        obtain ⟨parameters, rfl⟩ := (Resolution.isTargetOf_of_resolve? resolved).parameters
        exact Dispatch.select_asHead fallback (fallsBack _ _ _ reading resolved)
          ((WireRequest.method_of_read reading).trans get)
      rw [Dispatcher.dispatch?_disguised Request.isDisguise_asHead blind selects, Option.map_map]
      rfl

/-- The answers to both requests correspond once their identifiers and lengths are added. -/
theorem mirrors_of_finished
    {unfinished : WireResponse}
    {alike : Prop}
    {value other : Text}
    {read head : Served σ}
    (same : alike → value = other)
    (state : head.state = read.state)
    (readIs : read.response = (unfinished.identified (some value)).departing .get)
    (headIs : head.response =
      (unfinished.withoutBody.identified (some other)).departing .head) :
    Mirrors unfinished alike read head := by
  have open' : (Method.get = Method.connect) = False := by decide
  have reading : (Method.get = Method.head) = False := by decide
  have closed : (Method.head = Method.connect) = False := by decide
  simp only [WireResponse.departing, WireResponse.identified_some, WireResponse.measured_eq,
    WireResponse.withoutBody, open', reading, closed, decide_false, Bool.false_and,
    Bool.false_eq_true, if_false, if_true, List.length_nil] at readIs headIs
  have apart : Text.lowerAscii Headers.contentLength ≠ Text.lowerAscii Headers.requestId := by
    decide
  have lower : Text.lowerAscii Headers.contentLength = Headers.contentLength := by decide
  have lower' : Text.lowerAscii Headers.requestId = Headers.requestId := by decide
  -- the identifier does not change the length
  have keeps : ∀ identifier : Text,
      (unfinished.headers.supply Headers.requestId identifier).contains Headers.contentLength =
        unfinished.headers.contains Headers.contentLength := fun identifier =>
    Headers.contains_congr (Headers.values_supply_of_ne apart _ _)
  refine ⟨?_, ?_, state, ?_, ?_, ?_, ?_⟩
  · rw [readIs, headIs]
  · rw [headIs]
  · intro name noLength noIdentifier
    rw [← lower] at noLength
    rw [← lower'] at noIdentifier
    simp only [readIs, headIs, Headers.values_supply_of_ne noLength,
      Headers.values_supply_of_ne noIdentifier]
  · intro holds
    rw [readIs, headIs, same holds, Headers.values_supply_of_ne apart.symm,
      Headers.values_supply_of_ne apart.symm]
  · intro present
    rw [readIs, headIs, Headers.values_supply_of_contains ((keeps _).trans present),
      Headers.values_supply_of_contains ((keeps _).trans present),
      Headers.values_supply_of_ne apart, Headers.values_supply_of_ne apart]
  · intro missing
    rw [readIs, headIs]
    exact ⟨Headers.values_supply_of_not_contains ((keeps _).trans missing) _,
      Headers.values_supply_of_not_contains ((keeps _).trans missing) _⟩

/-- A request is served by handling it and then adding the identifier and the length. -/
theorem serve?_eq
    {wire : WireRequest}
    {identifier value : Text}
    (shown : (wire.identified identifier).headers.get? Headers.requestId = some value)
    (dispatcher : Dispatcher σ)
    (limit : Nat)
    (state : σ)
    (counters : Counters) :
    serve? dispatcher limit identifier wire state counters =
      if isRouted wire.target then
        (handle? dispatcher limit (wire.identified identifier) state).map fun handled =>
          let response := WireResponse.ofOutcome handled.outcome
          let shown := if wire.method = .head then response.withoutBody else response
          ⟨(shown.identified (some value)).departing wire.method, handled.state,
            (countPath counters handled.unmatched).countRequest ⟨wire.method, response.status⟩⟩
      else
        some ⟨(WireResponse.nowhere.identified (some value)).departing wire.method, state,
          counters⟩ := by
  rw [serve?, shown]
  split
  · rw [answer?, Option.map_map, WireRequest.method_identified]
    rfl
  · rfl

/--
A `HEAD` request that falls back to the operations for `GET` is answered as the `GET` request is,
but for the length: one that the handler has not set is that of the entity in the answer to `GET`,
and zero in the answer to `HEAD`.  `identifier` and `other` are generated for the two requests.
-/
theorem serve?_asHead
    {dispatcher : Dispatcher σ}
    {limit : Nat}
    {identifier other : Text}
    {wire : WireRequest}
    {state : σ}
    (fallback : dispatcher.settings.headFallback = true)
    (get : wire.method = .get)
    (blind : ∀ resource,
      Resolution.IsReachable dispatcher.resources dispatcher.directory state resource →
        resource.IsBlindTo Request.asHead)
    (alike : wire.BringsIdentifier ∨ identifier = other ∨
      ∀ resource,
        Resolution.IsReachable dispatcher.resources dispatcher.directory state resource →
          resource.IsBlindTo (Request.renamed other))
    (fallsBack : ∀ request bound target,
      (wire.identified identifier).read dispatcher.settings.entityLimit = .ok request →
        Resolution.resolve? dispatcher.resources dispatcher.directory
            dispatcher.settings.decodesParameters state limit request =
          some (bound, .ok target) →
        Dispatch.FallsBack target.operations)
    (counters : Counters) :
    (serve? dispatcher limit identifier wire state counters = none ∧
        serve? dispatcher limit other wire.asHead state counters = none) ∨
      ∃ unfinished read head,
        unfinished? dispatcher limit (wire.identified identifier) state = some unfinished ∧
          serve? dispatcher limit identifier wire state counters = some read ∧
          serve? dispatcher limit other wire.asHead state counters = some head ∧
          Mirrors unfinished (wire.BringsIdentifier ∨ identifier = other) read head := by
  obtain ⟨value, shown⟩ := wire.exists_get?_identified identifier
  obtain ⟨value', shown'⟩ := wire.asHead.exists_get?_identified other
  have same : wire.BringsIdentifier ∨ identifier = other → value = value' := by
    rw [WireRequest.identified_asHead] at shown'
    rintro (brings | rfl)
    · rw [WireRequest.identified_of_bringsIdentifier brings] at shown shown'
      exact Option.some.inj (shown.symm.trans shown')
    · exact Option.some.inj (shown.symm.trans shown')
  have handles : handle? dispatcher limit (wire.asHead.identified other) state =
      handle? dispatcher limit (wire.identified identifier) state := by
    calc
      _ = handle? dispatcher limit (wire.asHead.identified identifier) state :=
        @handle?_identified σ dispatcher wire.asHead state identifier other alike limit
      _ = handle? dispatcher limit (wire.identified identifier).asHead state := by
        rw [WireRequest.identified_asHead]
      _ = _ := handle?_asHead fallback ((wire.method_identified identifier).trans get) blind
        fallsBack
  have reading : (Method.get = Method.head) = False := by decide
  have served := serve?_eq shown dispatcher limit state counters
  have served' := serve?_eq shown' dispatcher limit state counters
  rw [handles] at served'
  simp only [WireRequest.asHead, get, reading, if_false, if_true] at served served'
  rw [unfinished?, WireRequest.target_identified]
  by_cases routed : isRouted wire.target = true
  · rw [if_pos routed] at served served' ⊢
    cases result : handle? dispatcher limit (wire.identified identifier) state with
    | none =>
        rw [result] at served served'
        exact .inl ⟨served, served'⟩
    | some handled =>
        rw [result] at served served'
        exact .inr ⟨_, _, _, rfl, served, served', mirrors_of_finished same rfl rfl rfl⟩
  · rw [if_neg routed] at served served' ⊢
    exact .inr ⟨_, _, _, rfl, served, served', mirrors_of_finished same rfl rfl rfl⟩

/-- A resource whose only member answers `GET` with a text, on the path `/a`. -/
structure IsGreeting (resource : Resource Unit) : Prop where
  /-- The resource has been declared. -/
  declared : resource.IsDeclared
  /-- The operation answers with a text. -/
  operations : resource.operations =
    [{ method := .get, handler := fun _ state => (.ok (Response.ok.withText "hi".toList), state) }]
  /-- There are no operations below the resource. -/
  subOperations : resource.subOperations = []
  /-- There are no locators. -/
  locators : resource.locators = []
  /-- The path leads to the resource. -/
  matched : resource.pattern.match? "/a".toList = some ⟨[], none⟩

theorem exists_isGreeting : ∃ resource, IsGreeting resource := by
  obtain ⟨pattern, compiled, matched⟩ : ∃ pattern,
      Uri.Pattern.compile "/a".toList = .ok pattern ∧
        pattern.match? "/a".toList = some ⟨[], none⟩ := by
    have matched : (Uri.Pattern.compile "/a".toList).toOption.bind (·.match? "/a".toList) =
        some ⟨[], none⟩ := by decide +kernel
    cases compiled : Uri.Pattern.compile "/a".toList with
    | error error =>
        rw [compiled] at matched
        cases matched
    | ok pattern =>
        rw [compiled] at matched
        exact ⟨pattern, rfl, matched⟩
  exact ⟨⟨"a".toList, pattern, _, [], []⟩,
    Resource.isDeclared_of_compiled ⟨_, compiled⟩ ⟨by simp, by simp⟩ rfl, rfl, rfl, rfl, matched⟩

/-- What serves the resource alone. -/
def greeter (resource : Resource Unit) : Dispatcher Unit where
  resources := [resource]
  directory _ := none

/-- A request that the resource answers. -/
def greetingRequest : WireRequest where
  method := .get
  target := ⟨"/a".toList, none⟩
  headers := {}
  inflow := .whole []

namespace IsGreeting

variable {resource : Resource Unit} (greeting : IsGreeting resource)

include greeting

/-- No resource that can be reached sees a change of requests. -/
theorem isBlindTo
    (change : Request → Request)
    (reached : Resource Unit)
    (reachable :
      Resolution.IsReachable (greeter resource).resources (greeter resource).directory ()
        reached) :
    reached.IsBlindTo change := by
  cases reachable with
  | root present =>
      obtain rfl := List.mem_singleton.mp present
      constructor
      · intro operation member request state
        simp only [Resource.HasOperation, greeting.operations, greeting.subOperations,
          List.mem_singleton, List.not_mem_nil, false_and, exists_false, or_false] at member
        rw [member]
      · simp [greeting.locators]
  | located reached present found =>
      simp [greeter] at found

theorem resolve? (decode : Bool) (limit : Nat) {request : Request}
    (path : request.path = "/a".toList) :
    Resolution.resolve? (greeter resource).resources (greeter resource).directory decode () limit
        request =
      some (request, .ok ⟨resource, resource.operations, resource.pattern.text⟩) :=
  Resolution.resolve?_of_only (path ▸ greeting.matched) (by simp [greeting.operations]) _ _ _ _

/-- Both requests are handled by the operation for `GET`. -/
theorem handle?
    (limit : Nat)
    {method : Method}
    (asked : method = .get ∨ method = .head) :
    Service.handle? (greeter resource) limit
        ({ greetingRequest with method := method }.identified "1".toList) () =
      some ⟨.ok ((Response.ok.withText "hi".toList).withHeader Headers.contentType
        MediaType.plainText.render), (), false⟩ := by
  have reading : ({ greetingRequest with method := method }.identified "1".toList).read
      (greeter resource).settings.entityLimit =
        .ok { method := method, path := "/a".toList, id := some "1".toList,
              headers := ⟨[(Headers.requestId, "1".toList)]⟩ } := by
    rfl
  rw [Service.handle?, reading]
  simp only [Dispatcher.dispatch?]
  rw [greeting.resolve?]
  · simp only [Option.map_some, Dispatch.run, greeting.operations]
    rcases asked with rfl | rfl <;> rfl
  · rfl

/-- The requests fall back to the operation for `GET`. -/
theorem fallsBack
    (identifier : Text)
    (limit : Nat)
    (request bound : Request)
    (target : Target Unit)
    (reading : (greetingRequest.identified identifier).read
      (greeter resource).settings.entityLimit = .ok request)
    (resolved : Resolution.resolve? (greeter resource).resources (greeter resource).directory
      (greeter resource).settings.decodesParameters () limit request =
        some (bound, .ok target)) :
    Dispatch.FallsBack target.operations := by
  cases reading
  rw [greeting.resolve? _ _ rfl] at resolved
  cases resolved
  rw [greeting.operations]
  exact ⟨⟨_, List.mem_singleton_self _, rfl⟩, by simp; decide⟩

/-- Both requests are answered, with the length of what is left of the text. -/
theorem exists_serve?
    {method : Method}
    (asked : method = .get ∨ method = .head) :
    ∃ served,
      serve? (greeter resource) 0 "1".toList { greetingRequest with method := method } () .zero =
          some served ∧
        served.response.headers.values Headers.contentLength =
          [if method = .head then "0".toList else "2".toList] := by
  have routed : isRouted greetingRequest.target = true := rfl
  rw [serve?_eq rfl, greeting.handle? 0 asked, if_pos routed]
  refine ⟨_, rfl, ?_⟩
  rcases asked with rfl | rfl <;> rfl

end IsGreeting

/-- The text is not sent in answer to `HEAD`, but its media type is. -/
theorem serve?_asHead_greeting :
    ∃ (resource : Resource Unit) (read head : Served Unit),
      resource.IsDeclared ∧
        serve? (greeter resource) 0 "1".toList greetingRequest () .zero = some read ∧
        serve? (greeter resource) 0 "2".toList greetingRequest.asHead () .zero = some head ∧
        head.response.status = read.response.status ∧
        head.response.body = [] ∧
        head.response.headers.values Headers.contentType =
          read.response.headers.values Headers.contentType := by
  obtain ⟨resource, greeting⟩ := exists_isGreeting
  rcases @serve?_asHead Unit (greeter resource) 0 "1".toList "2".toList greetingRequest () rfl rfl
      (greeting.isBlindTo _) (.inr (.inr (greeting.isBlindTo _))) (greeting.fallsBack _ _)
      .zero with
    ⟨unserved, _⟩ | ⟨_, read, head, _, reads, heads, mirrors⟩
  · obtain ⟨read, reads, _⟩ := greeting.exists_serve? (.inl rfl)
    exact absurd (reads.symm.trans unserved) (Option.some_ne_none _)
  · exact ⟨resource, read, head, greeting.declared, reads, heads, mirrors.status, mirrors.body,
      mirrors.headers _ (by decide) (by decide)⟩

/--
The length of the text is in the answer to `GET`, and another length in the answer to `HEAD`,
although the two requests have one identifier.
-/
theorem length_asHead_ne :
    ∃ (resource : Resource Unit) (read head : Served Unit),
      resource.IsDeclared ∧
        (greeter resource).settings.headFallback = true ∧
        (∀ change reached,
          Resolution.IsReachable (greeter resource).resources (greeter resource).directory ()
            reached → reached.IsBlindTo change) ∧
        (∀ request bound target,
          (greetingRequest.identified "1".toList).read (greeter resource).settings.entityLimit =
              .ok request →
            Resolution.resolve? (greeter resource).resources (greeter resource).directory
                (greeter resource).settings.decodesParameters () 0 request =
              some (bound, .ok target) →
            Dispatch.FallsBack target.operations) ∧
        serve? (greeter resource) 0 "1".toList greetingRequest () .zero = some read ∧
        serve? (greeter resource) 0 "1".toList greetingRequest.asHead () .zero = some head ∧
        read.response.headers.values Headers.contentLength = ["2".toList] ∧
        head.response.headers.values Headers.contentLength = ["0".toList] := by
  obtain ⟨resource, greeting⟩ := exists_isGreeting
  obtain ⟨read, reads, length⟩ := greeting.exists_serve? (.inl rfl)
  obtain ⟨head, heads, length'⟩ := greeting.exists_serve? (.inr rfl)
  exact ⟨resource, read, head, greeting.declared, rfl, greeting.isBlindTo, greeting.fallsBack _ _,
    reads, heads, length, length'⟩

end Service
end ResourceRouting
