import ResourceRouting.Proofs.Resolution.Reached

/-!
# Requests that look alike

Where no locator sees a certain change of requests, a changed request is resolved as it would be
without the change.
-/

namespace ResourceRouting

variable {σ : Type}

namespace Request

/-- A change of requests that shows neither in the path nor in the binding of path parameters. -/
structure IsDisguise (change : Request → Request) : Prop where
  /-- The path stays. -/
  path : ∀ request, (change request).path = request.path
  /-- Path parameters are bound as before. -/
  bind : ∀ request name value,
    change (request.bind name value) = (change request).bind name value

end Request

/-- The handlers and the locators of a resource do not see a change of requests. -/
structure Resource.IsBlindTo (resource : Resource σ) (change : Request → Request) : Prop where
  /-- The handlers do not see it. -/
  handlers : ∀ operation, resource.HasOperation operation → ∀ request state,
    operation.handler (change request) state = operation.handler request state
  /-- The locators do not see it. -/
  locators : ∀ sub ∈ resource.locators, ∀ request state,
    sub.locate (change request) state = sub.locate request state

namespace Resolution

/-- An outcome for the changed request. -/
def disguise (change : Request → Request) (outcome : Outcome σ) : Outcome σ :=
  (change outcome.1, outcome.2)

section Disguise

variable {change : Request → Request} (hidden : Request.IsDisguise change)

include hidden

theorem bindAll_disguised
    (decode : Bool)
    (pairs : List (Text × Option Text))
    (request : Request) :
    bindAll decode pairs (change request) =
      (change (bindAll decode pairs request).1, (bindAll decode pairs request).2) := by
  induction pairs generalizing request with
  | nil => rfl
  | cons pair rest ih =>
      obtain ⟨name, captured⟩ := pair
      cases captured with
      | none => exact ih request
      | some value =>
          cases read : parameterText decode name value with
          | error error => simp only [bindAll, read]
          | ok text => simp only [bindAll, read, ← hidden.bind, ih]

theorem arrive_disguised (resource : Resource σ) (template : Text) (request : Request) :
    arrive resource template (change request) =
      disguise change (arrive resource template request) := by
  unfold arrive
  split
  · rw [hidden.path]
    rfl
  · rfl

/-- A descent does not see a change that no resource on the way sees. -/
theorem descend_disguised
    {resources : List (Resource σ)}
    {directory : Directory σ}
    {state : σ}
    (blind : ∀ resource, IsReachable resources directory state resource →
      resource.IsBlindTo change)
    (decode : Bool)
    (limit : Nat)
    {resource : Resource σ}
    (reached : IsReachable resources directory state resource)
    (template : Text)
    (remainder : Option Text)
    (request : Request) :
    descend directory decode state limit resource template remainder (change request) =
      (descend directory decode state limit resource template remainder request).map
        (disguise change) := by
  induction limit using Nat.strongRecOn generalizing resource template remainder request with
  | ind limit ih =>
      cases remainder with
      | none =>
          rw [descend.eq_def, descend.eq_def]
          simp only [arrive_disguised hidden, Option.map_some]
      | some rest =>
          rw [descend.eq_def, descend.eq_def]
          by_cases terminal : Uri.PathMatch.isTerminal (some rest) = true
          · simp only [terminal, if_true, arrive_disguised hidden, Option.map_some]
          · simp only [terminal, Bool.false_eq_true, if_false]
            cases chosen : branch? resource rest with
            | none => simp only [hidden.path, Option.map_some, disguise]
            | some entry =>
                obtain ⟨branch, found⟩ := entry
                cases branch with
                | operation sub =>
                    simp only [bind, bindAll_disguised hidden]
                    cases binding : bindAll decode (sub.pattern.names.zip found.values) request with
                    | mk bound failure => cases failure <;> rfl
                | locator sub =>
                    have member := mem_locators_of_branch (Uri.Search.of_find?_eq_some chosen).1
                    simp only [bind, bindAll_disguised hidden]
                    cases binding : bindAll decode (sub.pattern.names.zip found.values) request with
                    | mk bound failure =>
                        cases failure with
                        | some error => rfl
                        | none =>
                            simp only [(blind resource reached).locators sub member]
                            cases located : (sub.locate bound state).bind directory with
                            | none => simp only [hidden.path, Option.map_some, disguise]
                            | some next =>
                                cases limit with
                                | zero => rfl
                                | succ less =>
                                    exact ih less (Nat.lt_succ_self less)
                                      (.located reached member located) _ _ _

/-- A resolution does not see a change that no resource that can be reached sees. -/
theorem resolve?_disguised
    {resources : List (Resource σ)}
    {directory : Directory σ}
    {state : σ}
    (blind : ∀ resource, IsReachable resources directory state resource →
      resource.IsBlindTo change)
    (decode : Bool)
    (limit : Nat)
    (request : Request) :
    resolve? resources directory decode state limit (change request) =
      (resolve? resources directory decode state limit request).map (disguise change) := by
  rw [resolve?, resolve?, hidden.path]
  cases chosen : root? resources request.path with
  | none => simp only [Option.map_some, disguise]
  | some entry =>
      obtain ⟨resource, found⟩ := entry
      have reached : IsReachable resources directory state resource :=
        .root (Uri.Search.of_find?_eq_some chosen).1
      simp only [bind, bindAll_disguised hidden]
      cases binding : bindAll decode (resource.pattern.names.zip found.values) request with
      | mk bound failure =>
          cases failure with
          | some error => rfl
          | none => exact descend_disguised hidden blind decode limit reached _ _ _

end Disguise

end Resolution

end ResourceRouting
