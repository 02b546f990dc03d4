import ResourceRouting.Proofs.Resolution.Descent
import ResourceRouting.Proofs.Resolution.Target

/-!
# Where a resolution ends

The target of a resolution is a resource that can be reached, and the operations that are found
are members of it.
-/

namespace ResourceRouting

variable {σ : Type}

/-- An operation is a member of a resource, on its own path or on one below it. -/
def Resource.HasOperation (resource : Resource σ) (operation : Operation σ) : Prop :=
  operation ∈ resource.operations ∨ ∃ sub ∈ resource.subOperations, sub.operation = operation

namespace Resolution

/-- A descent from a resource that can be reached ends at another one, with members of it. -/
theorem isReachable_of_descend
    {resources : List (Resource σ)}
    {directory : Directory σ}
    {decode : Bool}
    {state : σ}
    {limit : Nat}
    {resource : Resource σ}
    {template : Text}
    {remainder : Option Text}
    {request bound : Request}
    {target : Target σ}
    (reached : IsReachable resources directory state resource)
    (result : descend directory decode state limit resource template remainder request =
      some (bound, .ok target)) :
    IsReachable resources directory state target.resource ∧
      ∀ operation ∈ target.operations, target.resource.HasOperation operation := by
  induction limit using Nat.strongRecOn generalizing resource template remainder request with
  | ind limit ih =>
      rcases descend_cases result with
        ⟨_, _, rfl, _⟩ | ⟨rest, sub, found, _, _, chosen, _, rfl, _⟩ |
          ⟨rest, sub, found, middle, next, less, _, _, chosen, _, located, further, rfl, _⟩
      · exact ⟨reached, fun operation present => .inl present⟩
      · refine ⟨reached, ?_⟩
        intro operation present
        obtain ⟨other, member, equal, _⟩ := mem_operationsOf_iff.mp present
        exact .inr ⟨other, member, equal⟩
      · have member := mem_locators_of_branch (Uri.Search.of_find?_eq_some chosen).1
        exact ih less (Nat.lt_succ_self less) (.located reached member located) further

/-- A resolution ends at a resource that can be reached, with members of it. -/
theorem isReachable_of_resolve?
    {resources : List (Resource σ)}
    {directory : Directory σ}
    {decode : Bool}
    {state : σ}
    {limit : Nat}
    {request bound : Request}
    {target : Target σ}
    (resolved : resolve? resources directory decode state limit request =
      some (bound, .ok target)) :
    IsReachable resources directory state target.resource ∧
      ∀ operation ∈ target.operations, target.resource.HasOperation operation := by
  obtain ⟨resource, found, after, chosen, _, further, _⟩ := exists_descend_of_resolve? resolved
  exact isReachable_of_descend (.root (Uri.Search.of_find?_eq_some chosen).1) further

end Resolution
end ResourceRouting
