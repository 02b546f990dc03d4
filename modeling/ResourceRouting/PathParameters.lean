import ResourceRouting.Text

/-!
# Path parameters

The texts that have been bound to names on the way down a path.  A name that is bound again by a
deeper resource hides the outer binding.
-/

namespace ResourceRouting

/-- Bindings of names, the outermost first. -/
structure PathParameters where
  /-- The names and what is bound to them. -/
  bindings : List (Text × Text) := []
  deriving DecidableEq, Repr

namespace PathParameters

/-- No bindings. -/
def empty : PathParameters := {}

/-- One more binding, inside all others. -/
def push (parameters : PathParameters) (name value : Text) : PathParameters :=
  ⟨parameters.bindings ++ [(name, value)]⟩

/-- What is bound to a name, of several texts the innermost. -/
def get? (parameters : PathParameters) (name : Text) : Option Text :=
  parameters.bindings.reverse.lookup name

/-- All that is bound to a name, the outermost first. -/
def getAll (parameters : PathParameters) (name : Text) : List Text :=
  (parameters.bindings.filter (·.1 = name)).map Prod.snd

/-- The number of bindings. -/
def size (parameters : PathParameters) : Nat :=
  parameters.bindings.length

/-- Whether nothing is bound. -/
def isEmpty (parameters : PathParameters) : Bool :=
  parameters.bindings.isEmpty

@[simp]
theorem bindings_push (parameters : PathParameters) (name value : Text) :
    (parameters.push name value).bindings = parameters.bindings ++ [(name, value)] := rfl

/-- The name that was bound last has the text that it was bound to. -/
@[simp]
theorem get?_push (parameters : PathParameters) (name value : Text) :
    (parameters.push name value).get? name = some value := by
  simp [get?]

end PathParameters
end ResourceRouting
