import ResourceRouting.Registry

/-!
# The shared registry

A registry that is read while it changes.  A change copies the current version and publishes the
copy as a new version; a reader goes on with the version that was current when it asked.
-/

namespace ResourceRouting

/-- A registry with all of its versions, as readers may still hold any of them. -/
structure SharedRegistry (σ : Type) where
  /-- The versions that are no longer current, in the order of their publication. -/
  earlier : List (Registry σ) := []
  /-- The current version. -/
  current : Registry σ := .empty

/-- What a reader holds: a version, by the number of versions before it. -/
structure Snapshot where
  /-- How many versions were published before. -/
  version : Nat
  deriving DecidableEq, Repr

namespace SharedRegistry

variable {σ : Type}

/-- No resources, and no earlier version. -/
def empty : SharedRegistry σ := {}

/-- All versions, the current one last. -/
def versions (shared : SharedRegistry σ) : List (Registry σ) :=
  shared.earlier ++ [shared.current]

/-- What a reader holds that asks now. -/
def snapshot (shared : SharedRegistry σ) : Snapshot :=
  ⟨shared.earlier.length⟩

/-- The version that a reader holds, if there is one. -/
def read? (shared : SharedRegistry σ) (snapshot : Snapshot) : Option (Registry σ) :=
  shared.versions[snapshot.version]?

/-- Publishes a new version. -/
def publish (shared : SharedRegistry σ) (next : Registry σ) : SharedRegistry σ :=
  ⟨shared.versions, next⟩

/-- Registers a resource; nothing is published if that is refused. -/
def register (shared : SharedRegistry σ) (resource : Resource σ) :
    Except RegistryError (Resource σ) × SharedRegistry σ :=
  match shared.current.register resource with
  | .error error => (.error error, shared)
  | .ok next => (.ok resource, shared.publish next)

/-- Removes the resource of a template; nothing is published if there is none. -/
def unregister (shared : SharedRegistry σ) (template : Text) :
    Option (Resource σ) × SharedRegistry σ :=
  match shared.current.unregister template with
  | (none, _) => (none, shared)
  | (some removed, next) => (some removed, shared.publish next)

end SharedRegistry
end ResourceRouting
