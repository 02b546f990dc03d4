import ResourceRouting.Resource

/-!
# Declaring resources

A resource is declared by a name, a template and its members.  All templates are compiled when it
is declared, and no two operations of one path may have the same method and media types.
-/

namespace ResourceRouting

/-- Why a declaration makes no resource. -/
inductive ResourceError
  /-- A template is invalid. -/
  | template (error : Uri.TemplateError)
  /-- A media type is invalid. -/
  | mediaType (error : MediaTypeError)
  /-- Two operations of one path have the same method and media types. -/
  | duplicateOperation (resource : Text) (method : Method) (template : Text)
  deriving DecidableEq, Repr

namespace ResourceError

/-- What is wrong with a declaration, in words. -/
def message : ResourceError → String
  | template error => error.message
  | mediaType error => error.message
  | duplicateOperation resource method path =>
      s!"resource {String.ofList resource}: {String.ofList method.name} {String.ofList path} is declared twice with the same media types"

end ResourceError

/-- A member of a resource, as it is declared. -/
inductive Member (σ : Type)
  /-- An operation on the resource itself. -/
  | operation (operation : Operation σ)
  /-- An operation on a path below it. -/
  | subOperation (template : Text) (operation : Operation σ)
  /-- A locator. -/
  | locator (template : Text) (locate : Request → σ → Option Text)

namespace Operation

variable {σ : Type}

/-- Media types, where none stand for all. -/
def orWildcard (types : List MediaType) : List MediaType :=
  if types.isEmpty then [.wildcard] else types

/--
Whether media types are taken to be the same: there are equally many, and the kind, subtype and
suffix of each of the first ones are found among the second ones.
-/
def sameTypes (first second : List MediaType) : Bool :=
  (orWildcard first).length = (orWildcard second).length &&
    (orWildcard first).all fun media =>
      (orWildcard second).any fun other => media.essence = other.essence

/-- Whether an operation may not be declared after another one. -/
def conflictsWith (earlier later : Operation σ) : Bool :=
  earlier.method = later.method && sameTypes earlier.consumes later.consumes &&
    sameTypes earlier.produces later.produces

end Operation

namespace SubOperation

variable {σ : Type}

/-- Whether an operation may not be declared after another one below the same resource. -/
def conflictsWith (earlier later : SubOperation σ) : Bool :=
  earlier.pattern.same later.pattern && earlier.operation.conflictsWith later.operation

end SubOperation

namespace Resource

variable {σ : Type}

/-- The first member that is in conflict with an earlier one; `seen` holds the latter. -/
def firstConflict {α : Type} (conflict : α → α → Bool) (seen : List α) : List α → Option α
  | [] => none
  | member :: rest =>
      if seen.any (conflict · member) then some member
      else firstConflict conflict (seen ++ [member]) rest

/-- The resource, unless two of its operations are in conflict. -/
def checkConflicts (resource : Resource σ) : Except ResourceError (Resource σ) :=
  match firstConflict Operation.conflictsWith [] resource.operations with
  | some operation =>
      .error (.duplicateOperation resource.name operation.method resource.pattern.text)
  | none =>
      match firstConflict SubOperation.conflictsWith [] resource.subOperations with
      | some sub =>
          .error (.duplicateOperation resource.name sub.operation.method sub.pattern.text)
      | none => .ok resource

/-- A resource with one more member at its end. -/
def addMember (resource : Resource σ) : Member σ → Except ResourceError (Resource σ)
  | .operation operation =>
      .ok { resource with operations := resource.operations ++ [operation] }
  | .subOperation template operation =>
      match Uri.Pattern.compile template with
      | .error error => .error (.template error)
      | .ok pattern =>
          .ok { resource with subOperations := resource.subOperations ++ [⟨pattern, operation⟩] }
  | .locator template locate =>
      match Uri.Pattern.compile template with
      | .error error => .error (.template error)
      | .ok pattern => .ok { resource with locators := resource.locators ++ [⟨pattern, locate⟩] }

/-- The pattern of a resource's own path; without a template it is that of the empty path. -/
def ownPattern : Option Text → Except ResourceError Uri.Pattern
  | none => .ok .empty
  | some template => (Uri.Pattern.compile template).mapError .template

/--
The resource of a declaration.  The templates of the members are looked at in order before the
template of the resource, and conflicts last.
-/
def declare (name : Text) (template : Option Text) (members : List (Member σ)) :
    Except ResourceError (Resource σ) := do
  let resource ← members.foldlM addMember ⟨name, .empty, [], [], []⟩
  let pattern ← ownPattern template
  checkConflicts { resource with pattern := pattern }

end Resource
end ResourceRouting
