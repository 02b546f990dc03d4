import ResourceRouting.Response
import ResourceRouting.Request
import ResourceRouting.Uri.Pattern

/-!
# Resources

A resource has a pattern, operations on its own path, operations on paths below it, and locators,
which hand paths below it to other resources.  Locators name the resources that they find; a
directory holds resources by name, so resources may lead to each other in any way, also in circles.
All handlers share one state.
-/

namespace ResourceRouting

/-- Answers a request; the state that all handlers share may change. -/
abbrev Handler (σ : Type) := Request → σ → Except DispatchError Response × σ

/-- A request method bound to a handler. -/
structure Operation (σ : Type) where
  /-- The request method. -/
  method : Method
  /-- The media types that the handler reads; none stand for all. -/
  consumes : List MediaType := []
  /-- The media types that the handler writes; none stand for all. -/
  produces : List MediaType := []
  /-- The handler. -/
  handler : Handler σ

/-- An operation on a path below a resource. -/
structure SubOperation (σ : Type) where
  /-- The pattern of the path below the resource. -/
  pattern : Uri.Pattern
  /-- The operation. -/
  operation : Operation σ

/-- Hands what is left of a path to another resource. -/
structure Locator (σ : Type) where
  /-- The pattern of the part of the path that the locator takes. -/
  pattern : Uri.Pattern
  /-- The key of the resource that goes on, if there is one for the request. -/
  locate : Request → σ → Option Text

/-- A resource. -/
structure Resource (σ : Type) where
  /-- The name, for messages. -/
  name : Text
  /-- The pattern of the resource's own path. -/
  pattern : Uri.Pattern
  /-- The operations on the resource itself. -/
  operations : List (Operation σ)
  /-- The operations on paths below it. -/
  subOperations : List (SubOperation σ)
  /-- The locators. -/
  locators : List (Locator σ)

/-- The resources that locators can find, by their keys. -/
abbrev Directory (σ : Type) := Text → Option (Resource σ)

namespace Resource

variable {σ : Type}

/-- Whether a path may go on below the resource. -/
def hasSubResources (resource : Resource σ) : Bool :=
  !resource.subOperations.isEmpty || !resource.locators.isEmpty

end Resource
end ResourceRouting
