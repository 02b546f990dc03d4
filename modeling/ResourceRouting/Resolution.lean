import ResourceRouting.Resource
import ResourceRouting.Uri.Search

/-!
# Resolution

Finds the operations that a path leads to.  The best root resource takes the path; what is left
over goes to one of its operations, or through a locator to another resource, and so on.  Path
parameters are bound on the way down.
-/

namespace ResourceRouting

/-- Where a path leads. -/
structure Target (σ : Type) where
  /-- The resource that was reached. -/
  resource : Resource σ
  /-- The operations on the path, in the order of their declaration. -/
  operations : List (Operation σ)
  /-- The templates that were matched on the way down, one after the other. -/
  template : Text

namespace Resolution

variable {σ : Type}

/--
The search for a root resource.  Only a resource that goes on below itself may leave a part of the
path.
-/
def rootSearch : Uri.Search (Resource σ) where
  pattern := Resource.pattern
  admits resource remainder := Uri.PathMatch.isTerminal remainder || resource.hasSubResources
  better next held := next.pattern.precedes held.pattern

/-- The best resource for a path, the first one of equals, with what its pattern matched. -/
def root? (resources : List (Resource σ)) (path : Text) : Option (Resource σ × Uri.PathMatch) :=
  rootSearch.find? path resources

/-- The best resource for a path; the buffer then holds what its pattern matched. -/
def rootInto
    (resources : List (Resource σ))
    (path : Text)
    (buffer : List (Option Text)) :
    Option (Resource σ) × List (Option Text) :=
  rootSearch.findInto path resources buffer

/-- What goes on with a path below a resource. -/
inductive Branch (σ : Type)
  /-- An operation. -/
  | operation (sub : SubOperation σ)
  /-- A locator. -/
  | locator (sub : Locator σ)

namespace Branch

/-- The pattern of a branch. -/
def pattern : Branch σ → Uri.Pattern
  | operation sub => sub.pattern
  | locator sub => sub.pattern

/-- Whether a branch is a locator. -/
def isLocator : Branch σ → Bool
  | operation _ => false
  | locator _ => true

/-- Whether a branch is preferred: by its pattern, and then an operation to a locator. -/
def precedes (first second : Branch σ) : Bool :=
  match first.pattern.order second.pattern with
  | .lt => true
  | .gt => false
  | .eq => !first.isLocator && second.isLocator

end Branch

/-- All branches of a resource, the operations first. -/
def branches (resource : Resource σ) : List (Branch σ) :=
  resource.subOperations.map .operation ++ resource.locators.map .locator

/-- The search for a branch.  An operation has to match all of the path. -/
def branchSearch : Uri.Search (Branch σ) where
  pattern := Branch.pattern
  admits branch remainder := branch.isLocator || Uri.PathMatch.isTerminal remainder
  better := Branch.precedes

/-- The best branch for a path below a resource, with what it matched. -/
def branch? (resource : Resource σ) (path : Text) : Option (Branch σ × Uri.PathMatch) :=
  branchSearch.find? path (branches resource)

/-- The best branch for a path below a resource; the buffer then holds what it matched. -/
def branchInto
    (resource : Resource σ)
    (path : Text)
    (buffer : List (Option Text)) :
    Option (Branch σ) × List (Option Text) :=
  branchSearch.findInto path (branches resource) buffer

/-- The text of a path parameter: decoded if asked for, when it has to be UTF-8. -/
def parameterText (decode : Bool) (name value : Text) : Except DispatchError Text :=
  if decode then
    match Utf8.decode? (Percent.decode value) with
    | some text => .ok text
    | none => .error (.parameterNotText name)
  else
    .ok value

/--
Binds names to texts in order; a name without a text is passed over.  With the request comes the
error of the first text that cannot be bound.
-/
def bindAll (decode : Bool) : List (Text × Option Text) → Request → Request × Option DispatchError
  | [], request => (request, none)
  | (_, none) :: rest, request => bindAll decode rest request
  | (name, some value) :: rest, request =>
      match parameterText decode name value with
      | .error error => (request, some error)
      | .ok text => bindAll decode rest (request.bind name text)

/-- Binds the variables of a pattern to the texts that it matched. -/
def bind
    (decode : Bool)
    (pattern : Uri.Pattern)
    (found : Uri.PathMatch)
    (request : Request) :
    Request × Option DispatchError :=
  bindAll decode (pattern.names.zip found.values) request

/-- The operations of a resource whose pattern is the same as a given one. -/
def operationsOf (resource : Resource σ) (pattern : Uri.Pattern) : List (Operation σ) :=
  (resource.subOperations.filter fun sub => sub.pattern.same pattern).map (·.operation)

/-- What a resolution leads to: the request with its path parameters, and a target or an error. -/
abbrev Outcome (σ : Type) := Request × Except DispatchError (Target σ)

/-- The outcome on a resource that takes all that is left of the path. -/
def arrive (resource : Resource σ) (template : Text) (request : Request) : Outcome σ :=
  if resource.operations.isEmpty then
    (request, .error (.notFound request.path))
  else
    (request, .ok ⟨resource, resource.operations, template⟩)

/--
Descends from a resource with what is left of the path.  No outcome is found if more than `limit`
locators would have to be followed.
-/
def descend
    (directory : Directory σ)
    (decode : Bool)
    (state : σ)
    (limit : Nat)
    (resource : Resource σ)
    (template : Text)
    (remainder : Option Text)
    (request : Request) :
    Option (Outcome σ) :=
  match remainder with
  | none => some (arrive resource template request)
  | some rest =>
      if Uri.PathMatch.isTerminal (some rest) then
        some (arrive resource template request)
      else
        match branch? resource rest with
        | none => some (request, .error (.notFound request.path))
        | some (.operation sub, found) =>
            match bind decode sub.pattern found request with
            | (bound, some error) => some (bound, .error error)
            | (bound, none) =>
                some (bound, .ok ⟨resource, operationsOf resource sub.pattern,
                  template ++ sub.pattern.text⟩)
        | some (.locator sub, found) =>
            match bind decode sub.pattern found request with
            | (bound, some error) => some (bound, .error error)
            | (bound, none) =>
                match (sub.locate bound state).bind directory with
                | none => some (bound, .error (.notFound bound.path))
                | some next =>
                    match limit with
                    | 0 => none
                    | less + 1 =>
                        descend directory decode state less next
                          (template ++ sub.pattern.text) found.remainder bound

/--
Resolves the path of a request.  No outcome is found if more than `limit` locators would have to
be followed.
-/
def resolve?
    (resources : List (Resource σ))
    (directory : Directory σ)
    (decode : Bool)
    (state : σ)
    (limit : Nat)
    (request : Request) :
    Option (Outcome σ) :=
  match root? resources request.path with
  | none => some (request, .error (.notFound request.path))
  | some (resource, found) =>
      match bind decode resource.pattern found request with
      | (bound, some error) => some (bound, .error error)
      | (bound, none) =>
          descend directory decode state limit resource resource.pattern.text found.remainder bound

end Resolution
end ResourceRouting
