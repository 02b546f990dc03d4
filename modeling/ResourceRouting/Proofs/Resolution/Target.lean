import ResourceRouting.Proofs.Resolution.Binding
import ResourceRouting.Proofs.Resolution.Trail
import ResourceRouting.Proofs.Resource.Declared

/-!
# Targets

What holds of every target, whatever way led to it: there are operations, and of the request only
the path parameters have changed.
-/

namespace ResourceRouting
namespace Resolution

variable {σ : Type}

/-- The operations of a pattern are those of the operations below a resource that have it. -/
theorem mem_operationsOf_iff
    {resource : Resource σ}
    {pattern : Uri.Pattern}
    {operation : Operation σ} :
    operation ∈ operationsOf resource pattern ↔
      ∃ sub ∈ resource.subOperations,
        sub.operation = operation ∧ sub.pattern.same pattern = true := by
  simp only [operationsOf, List.mem_map, List.mem_filter]
  constructor
  · rintro ⟨sub, ⟨present, same⟩, equal⟩
    exact ⟨sub, present, equal, same⟩
  · rintro ⟨sub, present, equal, same⟩
    exact ⟨sub, ⟨present, same⟩, equal⟩

/-- What a request is resolved to. -/
structure IsTargetOf (request bound : Request) (target : Target σ) : Prop where
  /-- There are operations. -/
  operations : target.operations ≠ []
  /-- Nothing of the request but its path parameters has changed. -/
  parameters : ∃ parameters, bound = { request with parameters := parameters }

/-- Binding the variables of a pattern changes the path parameters only. -/
theorem exists_parameters_of_bind
    {decode : Bool}
    {pattern : Uri.Pattern}
    {found : Uri.PathMatch}
    {before after : Request}
    (binding : bind decode pattern found before = (after, none)) :
    ∃ parameters, after = { before with parameters := parameters } := by
  obtain ⟨added, rfl, _⟩ := exists_bindings_of_bindAll binding
  exact ⟨_, rfl⟩

/-- A descent arrives where nothing of the path is left. -/
theorem descend_of_isTerminal
    {remainder : Option Text}
    (terminal : Uri.PathMatch.isTerminal remainder = true)
    (directory : Directory σ)
    (decode : Bool)
    (state : σ)
    (limit : Nat)
    (resource : Resource σ)
    (template : Text)
    (request : Request) :
    descend directory decode state limit resource template remainder request =
      some (arrive resource template request) := by
  rw [descend.eq_def]
  cases remainder with
  | none => rfl
  | some rest => exact if_pos terminal

/-- A descent binds path parameters only, and there are operations where it ends. -/
theorem isTargetOf_of_descend
    {directory : Directory σ}
    {decode : Bool}
    {state : σ}
    {limit : Nat}
    {resource : Resource σ}
    {template : Text}
    {remainder : Option Text}
    {request bound : Request}
    {target : Target σ}
    (result : descend directory decode state limit resource template remainder request =
      some (bound, .ok target)) :
    IsTargetOf request bound target := by
  induction limit using Nat.strongRecOn generalizing resource template remainder request with
  | ind limit ih =>
      rcases descend_cases result with
        ⟨terminal, rfl, rfl, _⟩ | ⟨rest, sub, found, _, _, chosen, binding, rfl, _⟩ |
          ⟨rest, sub, found, middle, next, less, _, _, _, binding, _, further, rfl, _⟩
      · refine ⟨?_, bound.parameters, rfl⟩
        rw [descend_of_isTerminal terminal, arrive] at result
        split at result
        · cases result
        · rename_i answers
          simpa using answers
      · have inBranches := (Uri.Search.of_find?_eq_some chosen).1
        have member : sub.operation ∈ operationsOf resource sub.pattern :=
          mem_operationsOf_iff.mpr
            ⟨sub, mem_subOperations_of_branch inBranches, rfl, decide_eq_true rfl⟩
        exact ⟨List.ne_nil_of_mem member, exists_parameters_of_bind binding⟩
      · obtain ⟨answers, parameters, rfl⟩ := ih less (Nat.lt_succ_self less) further
        obtain ⟨_, rfl⟩ := exists_parameters_of_bind binding
        exact ⟨answers, parameters, rfl⟩

/-- A resolution binds path parameters only, and there are operations where it ends. -/
theorem isTargetOf_of_resolve?
    {resources : List (Resource σ)}
    {directory : Directory σ}
    {decode : Bool}
    {state : σ}
    {limit : Nat}
    {request bound : Request}
    {target : Target σ}
    (resolved : resolve? resources directory decode state limit request =
      some (bound, .ok target)) :
    IsTargetOf request bound target := by
  obtain ⟨resource, found, after, _, binding, further, _⟩ := exists_descend_of_resolve? resolved
  obtain ⟨answers, parameters, rfl⟩ := isTargetOf_of_descend further
  obtain ⟨_, rfl⟩ := exists_parameters_of_bind binding
  exact ⟨answers, parameters, rfl⟩

/-- The operations of the only resource are the target of a path that it matches as a whole. -/
theorem resolve?_of_only
    {resource : Resource σ}
    {request : Request}
    (matched : resource.pattern.match? request.path = some ⟨[], none⟩)
    (answers : resource.operations ≠ [])
    (directory : Directory σ)
    (decode : Bool)
    (state : σ)
    (limit : Nat) :
    resolve? [resource] directory decode state limit request =
      some (request, .ok ⟨resource, resource.operations, resource.pattern.text⟩) := by
  have rooted : root? [resource] request.path = some (resource, ⟨[], none⟩) :=
    root?_of_only matched rfl
  have binding : bind decode resource.pattern ⟨[], none⟩ request = (request, none) := by
    simp [bind, bindAll]
  have arrived : arrive resource resource.pattern.text request =
      (request, .ok ⟨resource, resource.operations, resource.pattern.text⟩) :=
    if_neg (by simpa using answers)
  have consumed : Uri.PathMatch.isTerminal none = true := rfl
  simp only [resolve?, rooted, binding, descend_of_isTerminal consumed, arrived]

/-- Operations without conflicts make a resource that answers a path of its template. -/
theorem exists_resolve?_of_match?
    {template path : Text}
    (matched : (Uri.Pattern.compile template).toOption.bind (·.match? path) = some ⟨[], none⟩)
    {operations : List (Operation σ)}
    (answers : operations ≠ [])
    (consistent : Resource.firstConflict Operation.conflictsWith [] operations = none) :
    ∃ resource : Resource σ,
      resource.IsDeclared ∧
        ∀ (directory : Directory σ) (decode : Bool) (state : σ) (limit : Nat) (request : Request),
          request.path = path →
            resolve? [resource] directory decode state limit request =
              some (request, .ok ⟨resource, operations, resource.pattern.text⟩) := by
  cases compiled : Uri.Pattern.compile template with
  | error fault =>
      rw [compiled] at matched
      cases matched
  | ok pattern =>
      rw [compiled] at matched
      let resource : Resource σ := ⟨template, pattern, operations, [], []⟩
      have unconflicted : resource.checkConflicts = .ok resource := by
        simp [Resource.checkConflicts, resource, consistent, Resource.firstConflict]
      refine ⟨resource, Resource.isDeclared_of_compiled ⟨template, compiled⟩
        ⟨by simp [resource], by simp [resource]⟩ unconflicted, ?_⟩
      rintro directory decode state limit request rfl
      exact @resolve?_of_only σ resource request matched answers directory decode state limit

end Resolution
end ResourceRouting
