import Mathlib.Data.List.Induction
import Mathlib.Data.List.Pairwise
import ResourceRouting.Proofs.Resource.Declared
import ResourceRouting.Registry

/-!
# Reachable registries

What registering and unregistering do to a registry, and what they lead to where all resources are
declared.  All patterns of a registry that is reached in this way differ.
-/

namespace ResourceRouting
namespace Registry

variable {σ : Type}

/-- No two of some resources have the same pattern. -/
def PatternsDiffer (resources : List (Resource σ)) : Prop :=
  resources.Pairwise fun first second => first.pattern.same second.pattern = false

/-- That two patterns differ does not depend on their order. -/
theorem differ_symm
    {first second : Resource σ}
    (differ : first.pattern.same second.pattern = false) :
    second.pattern.same first.pattern = false := by
  simpa [Uri.Pattern.same, eq_comm] using differ

/-- The registries that registering and unregistering declared resources leads to. -/
inductive Reachable : Registry σ → Prop
  /-- At first there are no resources. -/
  | empty : Reachable empty
  /-- A resource is registered. -/
  | register
      {registry next : Registry σ}
      {resource : Resource σ}
      (reachable : Reachable registry)
      (declared : resource.IsDeclared)
      (registered : registry.register resource = .ok next) :
      Reachable next
  /-- The resource of a template is unregistered. -/
  | unregister
      {registry : Registry σ}
      (reachable : Reachable registry)
      (template : Text) :
      Reachable (registry.unregister template).2

/-- No resource is found exactly if none has the pattern. -/
theorem find?_eq_none_iff
    {registry : Registry σ}
    {pattern : Uri.Pattern} :
    registry.find? pattern = none ↔
      ∀ existing ∈ registry.resources, existing.pattern.same pattern = false := by
  simp [find?, List.find?_eq_none]

/-- A resource is registered behind the others if none of them has its pattern. -/
theorem register_eq_ok_iff
    {registry next : Registry σ}
    {resource : Resource σ} :
    registry.register resource = .ok next ↔
      (∀ existing ∈ registry.resources, existing.pattern.same resource.pattern = false) ∧
        next.resources = registry.resources ++ [resource] := by
  rw [← find?_eq_none_iff]
  cases found : registry.find? resource.pattern with
  | some existing => simp [register, found]
  | none =>
      obtain ⟨resources⟩ := next
      simp [register, found, eq_comm]

/-- A resource is refused for another one that has its pattern. -/
theorem register_eq_error
    {registry : Registry σ}
    {resource : Resource σ}
    {error : RegistryError}
    (refused : registry.register resource = .error error) :
    ∃ existing ∈ registry.resources,
      existing.pattern.same resource.pattern = true ∧
        error = .duplicatePattern existing.name resource.name resource.pattern.text := by
  cases found : registry.find? resource.pattern with
  | none => simp [register, found] at refused
  | some existing =>
      simp only [register, found, Except.error.injEq] at refused
      rw [find?] at found
      have same := List.find?_some found
      exact ⟨existing, List.mem_of_find?_eq_some found, same, refused.symm⟩

/-- A resource is refused exactly if there is one with its pattern. -/
theorem exists_register_eq_error_iff {registry : Registry σ} {resource : Resource σ} :
    (∃ error, registry.register resource = .error error) ↔
      ∃ existing ∈ registry.resources, existing.pattern.same resource.pattern = true := by
  constructor
  · rintro ⟨error, refused⟩
    obtain ⟨existing, present, same, _⟩ := register_eq_error refused
    exact ⟨existing, present, same⟩
  · rintro ⟨existing, present, same⟩
    cases registered : registry.register resource with
    | error error => exact ⟨error, rfl⟩
    | ok next =>
        have differ := (register_eq_ok_iff.mp registered).1 existing present
        rw [same] at differ
        cases differ

/-- Registering keeps the patterns different from one another. -/
theorem PatternsDiffer.register
    {registry next : Registry σ}
    {resource : Resource σ}
    (differ : PatternsDiffer registry.resources)
    (registered : registry.register resource = .ok next) :
    PatternsDiffer next.resources := by
  obtain ⟨others, resources⟩ := register_eq_ok_iff.mp registered
  rw [resources, PatternsDiffer, List.pairwise_append]
  refine ⟨differ, List.pairwise_singleton _ _, ?_⟩
  intro existing present last equal
  rw [List.mem_singleton.mp equal]
  exact others existing present

/-- Resources are registered one after the other if no two of them have the same pattern. -/
theorem foldlM_register_eq_ok_iff
    {registry next : Registry σ}
    {resources : List (Resource σ)} :
    resources.foldlM register registry = .ok next ↔
      (∀ existing ∈ registry.resources, ∀ resource ∈ resources,
          existing.pattern.same resource.pattern = false) ∧
        PatternsDiffer resources ∧ next.resources = registry.resources ++ resources := by
  induction resources generalizing registry with
  | nil =>
      constructor
      · intro folded
        cases folded
        simp [PatternsDiffer]
      · rintro ⟨_, _, resources⟩
        exact congrArg Except.ok (Registry.ext (by simpa using resources.symm))
  | cons resource rest ih =>
      cases registered : registry.register resource with
      | error refused =>
          obtain ⟨existing, present, same, _⟩ := register_eq_error registered
          constructor
          · intro folded
            simp [List.foldlM_cons, registered, bind, Except.bind] at folded
          · rintro ⟨others, _⟩
            rw [others existing present resource (List.mem_cons_self ..)] at same
            cases same
      | ok middle =>
          obtain ⟨others, resources⟩ := register_eq_ok_iff.mp registered
          simp only [List.foldlM_cons, registered, bind, Except.bind, ih, resources,
            PatternsDiffer, List.pairwise_cons, List.append_assoc, List.singleton_append]
          constructor
          · rintro ⟨apart, distinct, appended⟩
            refine ⟨?_, ⟨?_, distinct⟩, appended⟩
            · intro existing present other listed
              rcases List.mem_cons.mp listed with rfl | later
              · exact others existing present
              · exact apart existing (List.mem_append_left _ present) other later
            · exact apart resource (by simp)
          · rintro ⟨apart, ⟨first, distinct⟩, appended⟩
            refine ⟨?_, distinct, appended⟩
            intro existing present other later
            rcases List.mem_append.mp present with before | last
            · exact apart existing before other (List.mem_cons_of_mem _ later)
            · rw [List.mem_singleton.mp last]
              exact first other later

/-- A resource that is the first one of a template's pattern is what unregistering removes. -/
theorem unregister_of_first
    {registry : Registry σ}
    {template : Text}
    {pattern : Uri.Pattern}
    {before after : List (Resource σ)}
    {first : Resource σ}
    (compiled : Uri.Pattern.compile template = .ok pattern)
    (parted : registry.resources = before ++ first :: after)
    (same : first.pattern.same pattern = true)
    (others : ∀ other ∈ before, other.pattern.same pattern = false) :
    registry.unregister template = (some first, ⟨before ++ after⟩) := by
  have passed : before.find? (fun resource => resource.pattern.same pattern) = none := by
    simpa [List.find?_eq_none] using others
  have kept : ∀ other ∈ before, ¬other.pattern.same pattern = true := by simpa using others
  rw [unregister, compiled]
  simp only [find?, parted, List.find?_append, passed, List.find?_cons, same, Option.none_or,
    List.eraseP_append_right _ kept, List.eraseP_cons, cond_true]

/-- Nothing changes if no resource has the pattern of a template. -/
theorem unregister_of_absent
    {registry : Registry σ}
    {template : Text}
    {pattern : Uri.Pattern}
    (compiled : Uri.Pattern.compile template = .ok pattern)
    (absent : ∀ resource ∈ registry.resources, resource.pattern.same pattern = false) :
    registry.unregister template = (none, registry) := by
  have kept : ∀ resource ∈ registry.resources, ¬resource.pattern.same pattern = true := by
    simpa using absent
  rw [unregister, compiled]
  simp only [find?_eq_none_iff.mpr absent, List.eraseP_of_forall_not kept]

/-- Unregistering takes resources away at most. -/
theorem sublist_unregister (registry : Registry σ) (template : Text) :
    (registry.unregister template).2.resources.Sublist registry.resources := by
  unfold unregister
  split
  · exact List.Sublist.refl _
  · exact List.eraseP_sublist

/-- Unregistering keeps the patterns different from one another. -/
theorem PatternsDiffer.unregister
    {registry : Registry σ}
    (differ : PatternsDiffer registry.resources)
    (template : Text) :
    PatternsDiffer (registry.unregister template).2.resources :=
  differ.sublist (sublist_unregister registry template)

/-- Of resources whose patterns differ no other one has the pattern of one of them. -/
theorem PatternsDiffer.others
    {before behind : List (Resource σ)}
    {resource : Resource σ}
    {pattern : Uri.Pattern}
    (differ : PatternsDiffer (before ++ resource :: behind))
    (same : resource.pattern.same pattern = true) :
    ∀ other ∈ before ++ behind, other.pattern.same pattern = false := by
  rw [PatternsDiffer, List.pairwise_middle differ_symm, List.pairwise_cons] at differ
  intro other present
  have apart := differ_symm (differ.1 other present)
  simp only [Uri.Pattern.same, decide_eq_true_eq] at same
  rwa [Uri.Pattern.same, ← same]

/-- Resources can be registered in order exactly if no two of them have the same pattern. -/
theorem ofList_eq_ok_iff {resources : List (Resource σ)} {registry : Registry σ} :
    ofList resources = .ok registry ↔
      PatternsDiffer resources ∧ registry.resources = resources := by
  rw [ofList, foldlM_register_eq_ok_iff]
  simp [empty]

/-- All resources of a reachable registry are declared. -/
theorem Reachable.declared
    {registry : Registry σ}
    (reachable : registry.Reachable) :
    ∀ resource ∈ registry.resources, resource.IsDeclared := by
  induction reachable with
  | empty => simp [Registry.empty]
  | register _ declared registered ih =>
      rw [(register_eq_ok_iff.mp registered).2]
      intro resource present
      rcases List.mem_append.mp present with before | last
      · exact ih resource before
      · rwa [List.mem_singleton.mp last]
  | unregister _ template ih =>
      exact fun resource present => ih resource ((sublist_unregister _ template).subset present)

/-- All patterns of a reachable registry differ. -/
theorem Reachable.distinct
    {registry : Registry σ}
    (reachable : registry.Reachable) :
    registry.resources.Pairwise
      fun first second => first.pattern.same second.pattern = false := by
  induction reachable with
  | empty => exact List.Pairwise.nil
  | register _ _ registered ih => exact PatternsDiffer.register ih registered
  | unregister _ template ih => exact PatternsDiffer.unregister ih template

/-- Declared resources whose patterns differ can be registered one after the other. -/
theorem reachable_of_distinct
    {resources : List (Resource σ)}
    (declared : ∀ resource ∈ resources, resource.IsDeclared)
    (distinct : resources.Pairwise
      fun first second => first.pattern.same second.pattern = false) :
    Reachable ⟨resources⟩ := by
  induction resources using List.reverseRecOn with
  | nil => exact .empty
  | append_singleton others resource ih =>
      rw [List.pairwise_append] at distinct
      have before := ih (fun other present => declared other (List.mem_append_left _ present))
        distinct.1
      refine .register before (declared resource (by simp)) (register_eq_ok_iff.mpr ⟨?_, rfl⟩)
      exact fun existing present => distinct.2.2 existing present resource (by simp)

/-- Two resources of a reachable registry with the same pattern are one. -/
theorem Reachable.eq_of_same
    {registry : Registry σ}
    (reachable : registry.Reachable)
    {first second : Resource σ}
    (firstPresent : first ∈ registry.resources)
    (secondPresent : second ∈ registry.resources)
    (same : first.pattern.same second.pattern = true) :
    first = second := by
  have symmetric : Std.Symm fun first second : Resource σ =>
      first.pattern.same second.pattern = false :=
    ⟨fun _ _ => differ_symm⟩
  by_contra different
  have differ := reachable.distinct.forall firstPresent secondPresent different
  simp [same] at differ

end Registry
end ResourceRouting
