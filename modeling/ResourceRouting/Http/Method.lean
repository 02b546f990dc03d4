import ResourceRouting.MediaType

/-!
# Request methods

A request method is a name; besides the usual names any token is one.  Case matters.
-/

namespace ResourceRouting

/-- A request method. -/
structure Method where
  /-- The name of the method. -/
  name : Text
  deriving DecidableEq, Repr

namespace Method

/-- Reads a representation. -/
def get : Method := ⟨"GET".toList⟩

/-- Reads everything but the entity of a representation. -/
def head : Method := ⟨"HEAD".toList⟩

/-- Hands over an entity. -/
def post : Method := ⟨"POST".toList⟩

/-- Replaces a resource. -/
def put : Method := ⟨"PUT".toList⟩

/-- Removes a resource. -/
def delete : Method := ⟨"DELETE".toList⟩

/-- Asks which methods there are. -/
def options : Method := ⟨"OPTIONS".toList⟩

/-- Changes a resource. -/
def patch : Method := ⟨"PATCH".toList⟩

/-- Opens a tunnel. -/
def connect : Method := ⟨"CONNECT".toList⟩

/-- The method of a name, which has to be a token. -/
def ofText? (name : Text) : Option Method :=
  if !name.isEmpty && name.all MediaType.isTokenChar then some ⟨name⟩ else none

/-- The names of methods with commas between them. -/
def join : List Method → Text
  | [] => []
  | [only] => only.name
  | first :: rest => first.name ++ [',', ' '] ++ join rest

/-- The text lists the names in order, with a comma and a blank between any two of them. -/
theorem join_eq_intercalate (methods : List Method) :
    join methods = [',', ' '].intercalate (methods.map name) := by
  induction methods with
  | nil => rfl
  | cons first rest ih =>
      cases rest with
      | nil => rw [join, List.map_cons, List.map_nil, List.intercalate_singleton]
      | cons second others =>
          rw [join, ih]
          · simp only [List.map_cons, List.intercalate_cons_cons, List.append_assoc]
          · intro none
            cases none

end Method
end ResourceRouting
