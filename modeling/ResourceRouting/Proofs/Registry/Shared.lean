import ResourceRouting.Proofs.Registry
import ResourceRouting.Registry.Shared

/-!
# Runs of a shared registry

What registering, unregistering and asking for the current version lead to, one after the other.
Whatever has been done all patterns differ, a change that is refused changes nothing, and what a
reader holds stays as it was.
-/

namespace ResourceRouting
namespace SharedRegistry

variable {σ : Type}

/-- What is done with a shared registry. -/
inductive Command (σ : Type)
  /-- A resource is registered. -/
  | register (resource : Resource σ)
  /-- The resource of a template is unregistered. -/
  | unregister (template : Text)
  /-- A reader asks for the current version. -/
  | snapshot

/-- The shared registry after a command. -/
def after (shared : SharedRegistry σ) : Command σ → SharedRegistry σ
  | .register resource => (shared.register resource).2
  | .unregister template => (shared.unregister template).2
  | .snapshot => shared

/-- The shared registry after some commands. -/
def run (shared : SharedRegistry σ) (commands : List (Command σ)) : SharedRegistry σ :=
  commands.foldl after shared

/-- How registering a resource ends. -/
inductive Registers
    (shared : SharedRegistry σ)
    (resource : Resource σ) :
    Except RegistryError (Resource σ) × SharedRegistry σ → Prop
  /-- The resource is the last one of the next version if no other one has its pattern. -/
  | added
      {next : SharedRegistry σ}
      (others : ∀ existing ∈ shared.current.resources,
        existing.pattern.same resource.pattern = false)
      (appended : next.current.resources = shared.current.resources ++ [resource]) :
      Registers shared resource (.ok resource, next)
  /-- Nothing changes if another one has its pattern. -/
  | refused
      {existing : Resource σ}
      (present : existing ∈ shared.current.resources)
      (same : existing.pattern.same resource.pattern = true) :
      Registers shared resource
        (.error (.duplicatePattern existing.name resource.name resource.pattern.text), shared)

/-- How unregistering the resource of a template ends. -/
inductive Unregisters
    (shared : SharedRegistry σ)
    (template : Text) :
    Option (Resource σ) × SharedRegistry σ → Prop
  /-- Nothing changes if the template has no pattern. -/
  | invalid
      {fault : Uri.TemplateError}
      (faulty : Uri.Pattern.compile template = .error fault) :
      Unregisters shared template (none, shared)
  /-- Nothing changes if no resource has the pattern of the template. -/
  | absent
      {pattern : Uri.Pattern}
      (compiled : Uri.Pattern.compile template = .ok pattern)
      (others : ∀ resource ∈ shared.current.resources, resource.pattern.same pattern = false) :
      Unregisters shared template (none, shared)
  /-- The one resource that has the pattern is missing in the next version. -/
  | removed
      {pattern : Uri.Pattern}
      {removed : Resource σ}
      {before behind : List (Resource σ)}
      {next : SharedRegistry σ}
      (compiled : Uri.Pattern.compile template = .ok pattern)
      (parted : shared.current.resources = before ++ removed :: behind)
      (same : removed.pattern.same pattern = true)
      (others : ∀ other ∈ before ++ behind, other.pattern.same pattern = false)
      (left : next.current.resources = before ++ behind) :
      Unregisters shared template (some removed, next)

/-- The templates of a resource: the one of its declaration, and the one that its pattern shows. -/
inductive IsTemplateOf : Text → Resource σ → Prop
  /-- The resource is declared with the template. -/
  | declared
      {name template : Text}
      {members : List (Member σ)}
      {resource : Resource σ}
      (declares : Resource.declare name (some template) members = .ok resource) :
      IsTemplateOf template resource
  /-- The pattern of the resource shows the template. -/
  | shown
      {resource : Resource σ}
      (declared : resource.IsDeclared) :
      IsTemplateOf resource.pattern.text resource

/-- What holds of a shared registry in between two commands. -/
structure IsConsistent (shared : SharedRegistry σ) : Prop where
  /-- No two resources have the same pattern. -/
  differ : Registry.PatternsDiffer shared.current.resources
  /-- A resource is added at the end, or it is refused and nothing changes. -/
  register : ∀ resource, Registers shared resource (shared.register resource)
  /-- One resource is removed, or there is none and nothing changes. -/
  unregister : ∀ template, Unregisters shared template (shared.unregister template)
  /-- Registering a resource and unregistering it by its template leads back. -/
  restored : ∀ (resource : Resource σ) (template : Text) (next : SharedRegistry σ),
    IsTemplateOf template resource → shared.register resource = (.ok resource, next) →
      ∃ again, next.unregister template = (some resource, again) ∧ again.current = shared.current
  /-- A reader that asks now holds the current version, whatever is done later. -/
  kept : ∀ commands : List (Command σ),
    (shared.run commands).read? shared.snapshot = some shared.current

/-- Registering ends as it should. -/
theorem registers_register (shared : SharedRegistry σ) (resource : Resource σ) :
    Registers shared resource (shared.register resource) := by
  rw [register]
  split
  · rename_i error refused
    obtain ⟨existing, present, same, rfl⟩ := Registry.register_eq_error refused
    exact .refused present same
  · rename_i next registered
    obtain ⟨others, resources⟩ := Registry.register_eq_ok_iff.mp registered
    exact .added others resources

/-- Unregistering ends as it should if the patterns differ. -/
theorem unregisters_unregister
    {shared : SharedRegistry σ}
    (differ : Registry.PatternsDiffer shared.current.resources)
    (template : Text) :
    Unregisters shared template (shared.unregister template) := by
  cases compiled : Uri.Pattern.compile template with
  | error fault =>
      have unchanged : shared.current.unregister template = (none, shared.current) := by
        rw [Registry.unregister, compiled]
      rw [unregister, unchanged]
      exact .invalid compiled
  | ok pattern =>
      cases found : shared.current.find? pattern with
      | none =>
          have others := Registry.find?_eq_none_iff.mp found
          rw [unregister, Registry.unregister_of_absent compiled others]
          exact .absent compiled others
      | some removed =>
          obtain ⟨same, before, behind, parted, _⟩ := List.find?_eq_some_iff_append.mp found
          rw [parted] at differ
          have others := differ.others same
          have earlier : ∀ other ∈ before, other.pattern.same pattern = false :=
            fun other present => others other (List.mem_append_left _ present)
          rw [unregister, Registry.unregister_of_first compiled parted same earlier]
          exact .removed compiled parted same others rfl

/-- What a command does: it publishes a version, or nothing. -/
inductive Steps (shared : SharedRegistry σ) : SharedRegistry σ → Prop
  /-- There is nothing to publish. -/
  | unchanged : Steps shared shared
  /-- A version with one resource more is published. -/
  | registered
      {resource : Resource σ}
      {next : Registry σ}
      (registered : shared.current.register resource = .ok next) :
      Steps shared (shared.publish next)
  /-- A version without the resource of a template is published. -/
  | unregistered (template : Text) :
      Steps shared (shared.publish (shared.current.unregister template).2)

theorem steps_after (shared : SharedRegistry σ) (command : Command σ) :
    Steps shared (shared.after command) := by
  cases command with
  | register resource =>
      rw [after, register]
      split
      · exact .unchanged
      · rename_i next registered
        exact .registered registered
  | unregister template =>
      rw [after, unregister]
      split
      · exact .unchanged
      · rename_i removed next result
        have left : next = (shared.current.unregister template).2 := by rw [result]
        rw [left]
        exact .unregistered template
  | snapshot => exact .unchanged

/-- A step keeps the patterns different from one another. -/
theorem Steps.patternsDiffer
    {shared next : SharedRegistry σ}
    (steps : Steps shared next)
    (differ : Registry.PatternsDiffer shared.current.resources) :
    Registry.PatternsDiffer next.current.resources := by
  cases steps with
  | unchanged => exact differ
  | registered registered => exact differ.register registered
  | unregistered template => exact differ.unregister template

/-- A step publishes a further version at most. -/
theorem Steps.versions_grow
    {shared next : SharedRegistry σ}
    (steps : Steps shared next) :
    shared.versions <+: next.versions := by
  cases steps with
  | unchanged => exact List.prefix_rfl
  | registered _ => exact List.prefix_append _ _
  | unregistered _ => exact List.prefix_append _ _

/-- A run keeps the patterns different from one another. -/
theorem patternsDiffer_run
    {shared : SharedRegistry σ}
    (differ : Registry.PatternsDiffer shared.current.resources)
    (commands : List (Command σ)) :
    Registry.PatternsDiffer (shared.run commands).current.resources := by
  induction commands generalizing shared with
  | nil => exact differ
  | cons command rest ih => exact ih ((shared.steps_after command).patternsDiffer differ)

/-- A run publishes further versions at most. -/
theorem versions_grow_run (shared : SharedRegistry σ) (commands : List (Command σ)) :
    shared.versions <+: (shared.run commands).versions := by
  induction commands generalizing shared with
  | nil => exact List.prefix_rfl
  | cons command rest ih => exact (shared.steps_after command).versions_grow.trans (ih _)

/-- Whatever is done, a reader holds the version that was current when it asked. -/
theorem read?_run_snapshot (shared : SharedRegistry σ) (commands : List (Command σ)) :
    (shared.run commands).read? shared.snapshot = some shared.current := by
  obtain ⟨further, published⟩ := shared.versions_grow_run commands
  rw [read?, ← published, versions, snapshot]
  simp

/-- The templates of a resource have its pattern. -/
theorem IsTemplateOf.compile
    {template : Text}
    {resource : Resource σ}
    (own : IsTemplateOf template resource) :
    Uri.Pattern.compile template = .ok resource.pattern := by
  cases own with
  | declared declares =>
      obtain ⟨_, _, own, _⟩ := Resource.exists_foldlM_of_declare declares
      exact Resource.compile_of_ownPattern own
  | shown declared => exact declared.compiled.1.compile_text

/-- Unregistering a resource right after it was registered leads back. -/
theorem unregister_of_register
    {shared next : SharedRegistry σ}
    {resource : Resource σ}
    {template : Text}
    (own : IsTemplateOf template resource)
    (registered : shared.register resource = (.ok resource, next)) :
    ∃ again, next.unregister template = (some resource, again) ∧
      again.current = shared.current := by
  have registers := shared.registers_register resource
  rw [registered] at registers
  cases registers with
  | added others appended =>
      have removed := Registry.unregister_of_first own.compile appended (by simp [Uri.Pattern.same])
        others
      rw [List.append_nil] at removed
      exact ⟨next.publish shared.current, by rw [unregister, removed], rfl⟩

/-- Whatever has been done, a shared registry is consistent; a list makes one if patterns differ. -/
theorem isConsistent_run :
    (∀ commands : List (Command σ), (run empty commands).IsConsistent) ∧
      ∀ (resources : List (Resource σ)) (registry : Registry σ),
        Registry.ofList resources = .ok registry ↔
          Registry.PatternsDiffer resources ∧ registry.resources = resources := by
  refine ⟨?_, fun _ _ => Registry.ofList_eq_ok_iff⟩
  intro commands
  have differ := @patternsDiffer_run σ empty .nil commands
  exact
    { differ := differ
      register := registers_register _
      unregister := unregisters_unregister differ
      restored := fun _ _ _ own registered => unregister_of_register own registered
      kept := read?_run_snapshot _ }

end SharedRegistry
end ResourceRouting
