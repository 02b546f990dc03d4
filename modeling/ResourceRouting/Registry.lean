import ResourceRouting.Resource

/-!
# The registry

The root resources in the order in which they were registered.  No two of them have the same
pattern.
-/

namespace ResourceRouting

/-- Why a resource cannot be registered. -/
inductive RegistryError
  /-- Another resource has the same pattern. -/
  | duplicatePattern (existing added template : Text)
  deriving DecidableEq, Repr

namespace RegistryError

/-- Why a resource cannot be registered, in words. -/
def message : RegistryError → String
  | duplicatePattern existing added template =>
      s!"resource {String.ofList added} conflicts with {String.ofList existing}: both are mounted at {String.ofList template}"

end RegistryError

/-- The registered root resources. -/
@[ext]
structure Registry (σ : Type) where
  /-- The resources, in the order in which they were registered. -/
  resources : List (Resource σ) := []

namespace Registry

variable {σ : Type}

/-- No resources. -/
def empty : Registry σ := {}

/-- The number of resources. -/
def size (registry : Registry σ) : Nat :=
  registry.resources.length

/-- Whether there are no resources. -/
def isEmpty (registry : Registry σ) : Bool :=
  registry.resources.isEmpty

/-- The resource of a pattern. -/
def find? (registry : Registry σ) (pattern : Uri.Pattern) : Option (Resource σ) :=
  registry.resources.find? fun resource => resource.pattern.same pattern

/-- The registry with one more resource. -/
def register (registry : Registry σ) (resource : Resource σ) :
    Except RegistryError (Registry σ) :=
  match registry.find? resource.pattern with
  | some existing =>
      .error (.duplicatePattern existing.name resource.name resource.pattern.text)
  | none => .ok ⟨registry.resources ++ [resource]⟩

/-- A registry of some resources, registered in order. -/
def ofList (resources : List (Resource σ)) : Except RegistryError (Registry σ) :=
  resources.foldlM register empty

/-- Removes the resource of a template: the resource, if there is one, and what is left. -/
def unregister (registry : Registry σ) (template : Text) : Option (Resource σ) × Registry σ :=
  match Uri.Pattern.compile template with
  | .error _ => (none, registry)
  | .ok pattern =>
      (registry.find? pattern,
        ⟨registry.resources.eraseP fun resource => resource.pattern.same pattern⟩)

@[simp]
theorem size_empty : (empty : Registry σ).size = 0 := rfl

end Registry
end ResourceRouting
