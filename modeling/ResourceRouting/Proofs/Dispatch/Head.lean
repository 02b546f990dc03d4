import ResourceRouting.Proofs.Dispatch.Selection
import ResourceRouting.Proofs.Http.Headers
import ResourceRouting.Proofs.Resolution.Disguise

/-!
# `HEAD` in place of `GET`

A request that is changed in a way that neither the resources nor the selection of an operation
see is dispatched as before.  So a `HEAD` request that falls back to the operations for `GET` is
dispatched as the `GET` request would be.
-/

namespace ResourceRouting

variable {σ : Type}

/-- What has become of the changed request. -/
def Dispatched.disguise (change : Request → Request) (done : Dispatched σ) : Dispatched σ :=
  { done with request := change done.request }

/--
A request that is changed in a way that neither the resources nor the selection of an operation
see is dispatched as it would be without the change.
-/
theorem Dispatcher.dispatch?_disguised
    {dispatcher : Dispatcher σ}
    {state : σ}
    {change : Request → Request}
    (hidden : Request.IsDisguise change)
    (blind : ∀ resource,
      Resolution.IsReachable dispatcher.resources dispatcher.directory state resource →
        resource.IsBlindTo change)
    {limit : Nat}
    {request : Request}
    (selects : ∀ bound target,
      Resolution.resolve? dispatcher.resources dispatcher.directory
          dispatcher.settings.decodesParameters state limit request = some (bound, .ok target) →
        Dispatch.select dispatcher.settings target.operations (change bound) =
          Dispatch.select dispatcher.settings target.operations bound) :
    dispatcher.dispatch? limit (change request) state =
      (dispatcher.dispatch? limit request state).map (Dispatched.disguise change) := by
  rw [dispatch?, dispatch?, Resolution.resolve?_disguised hidden blind, Option.map_map,
    Option.map_map]
  apply Option.map_congr
  rintro ⟨bound, resolved⟩ result
  cases resolved with
  | error error => rfl
  | ok target =>
      obtain ⟨reached, members⟩ := Resolution.isReachable_of_resolve? result
      have same : Dispatch.run dispatcher.settings target (change bound) state =
          Dispatch.run dispatcher.settings target bound state := by
        rw [Dispatch.run, Dispatch.run, selects bound target result]
        split
        · rfl
        · rfl
        · rename_i selection selected
          have member := members _ (Dispatch.mem_of_select selected)
          rw [(blind _ reached).handlers _ member]
      simp only [Function.comp_apply, Resolution.disguise, Dispatched.disguise, same]

namespace Request

/-- The request with the method `HEAD`. -/
def asHead (request : Request) : Request :=
  { request with method := .head }

theorem isDisguise_asHead : IsDisguise asHead :=
  ⟨fun _ => rfl, fun _ _ _ => rfl⟩

/-- The request with another identifier. -/
def renamed (identifier : Text) (request : Request) : Request :=
  { request with
    headers := request.headers.insert Headers.requestId identifier
    id := (some identifier).filter Headers.isPlain }

theorem isDisguise_renamed (identifier : Text) : IsDisguise (renamed identifier) :=
  ⟨fun _ => rfl, fun _ _ _ => rfl⟩

/-- The media type of the entity does not depend on the identifier. -/
theorem contentType_renamed (identifier : Text) (request : Request) :
    (request.renamed identifier).contentType = request.contentType := by
  simp only [contentType, renamed, Headers.plain?,
    Headers.get?_insert_of_ne (show Text.lowerAscii Headers.contentType ≠
      Text.lowerAscii Headers.requestId by decide)]

/-- What the client accepts does not depend on the identifier. -/
theorem accept_renamed (identifier : Text) (request : Request) :
    (request.renamed identifier).headers.plain? Headers.accept =
      request.headers.plain? Headers.accept := by
  simp only [renamed, Headers.plain?,
    Headers.get?_insert_of_ne (show Text.lowerAscii Headers.accept ≠
      Text.lowerAscii Headers.requestId by decide)]

end Request

namespace Dispatch

/-- There is an operation for `GET` and none for `HEAD`. -/
structure FallsBack (operations : List (Operation σ)) : Prop where
  /-- Some operation is for `GET`. -/
  get : ∃ operation ∈ operations, operation.method = .get
  /-- No operation is for `HEAD`. -/
  head : ∀ operation ∈ operations, operation.method ≠ .head

/-- `HEAD` may use the operations for `GET` if there are none of its own. -/
theorem forMethod_head
    {settings : DispatchSettings}
    {operations : List (Operation σ)}
    (fallback : settings.headFallback = true)
    (fallsBack : FallsBack operations) :
    forMethod settings operations .head = forMethod settings operations .get := by
  have unserved : (withMethod operations .head).isEmpty = true := by
    simpa [withMethod] using fallsBack.head
  have other : (Method.get = Method.head) = False := by decide
  simp [forMethod, unserved, fallback, other]

/-- The same operation is selected for `HEAD` as for `GET`. -/
theorem select_asHead
    {settings : DispatchSettings}
    {operations : List (Operation σ)}
    {request : Request}
    (fallback : settings.headFallback = true)
    (fallsBack : FallsBack operations)
    (get : request.method = .get) :
    select settings operations request.asHead = select settings operations request := by
  obtain ⟨operation, present, reading⟩ := fallsBack.get
  have served : Serves settings operations .get operation := ⟨present, .inl reading⟩
  rw [select, select, get]
  simp only [Request.asHead, forMethod_head fallback fallsBack,
    isEmpty_forMethod_of_serves served, Bool.false_eq_true, if_false]
  rfl

/-- The selection of an operation does not depend on the identifier. -/
theorem select_renamed
    (settings : DispatchSettings)
    (operations : List (Operation σ))
    (identifier : Text)
    (request : Request) :
    select settings operations (request.renamed identifier) =
      select settings operations request := by
  rw [select, select, Request.contentType_renamed, Request.accept_renamed]
  rfl

end Dispatch
end ResourceRouting
