import ResourceRouting.Uri.Pattern

/-!
# Searching for the best match

A list is searched for the member whose pattern matches a path best.  All members write what they
match to one buffer, and the texts of the best member so far are taken out of it.
-/

namespace ResourceRouting
namespace Uri

/-- What a list is searched for. -/
structure Search (α : Type) where
  /-- The pattern of a member. -/
  pattern : α → Pattern
  /-- Whether a member may leave a remainder of the path. -/
  admits : α → Option Text → Bool
  /-- Whether a member is preferred to the one that is held. -/
  better : α → α → Bool

namespace Search

/-- What a search has come to. -/
structure State (α : Type) where
  /-- The buffer that the next member writes to. -/
  buffer : List (Option Text)
  /-- The best member so far, with the texts that it matched. -/
  best : Option (α × List (Option Text))

variable {α : Type}

/-- Before the first member. -/
def start : State α := ⟨[], none⟩

/-- Whether the texts in a buffer make a member the one to hold. -/
def replaces (search : Search α) (next : α) (buffer : List (Option Text)) :
    Option (α × List (Option Text)) → Bool
  | none => search.admits next buffer.getLast?.join
  | some (held, _) => search.admits next buffer.getLast?.join && search.better next held

/-- Looks at the next member. -/
def step (search : Search α) (path : Text) (state : State α) (next : α) : State α :=
  match (search.pattern next).matchInto path state.buffer with
  | (false, buffer) => { state with buffer := buffer }
  | (true, buffer) =>
      if search.replaces next buffer state.best then
        ⟨[], some (next, buffer)⟩
      else
        { state with buffer := buffer }

/-- The best member of a list, with the texts that it matched. -/
def run (search : Search α) (path : Text) (list : List α) : Option (α × List (Option Text)) :=
  (list.foldl (search.step path) start).best

/-- The best member of a list, with what it matched. -/
def find? (search : Search α) (path : Text) (list : List α) : Option (α × PathMatch) :=
  (search.run path list).map fun (member, texts) => (member, .ofList texts)

/--
The best member of a list.  The buffer then holds the texts that it matched; without such a
member it is left as it was.
-/
def findInto
    (search : Search α)
    (path : Text)
    (list : List α)
    (buffer : List (Option Text)) :
    Option α × List (Option Text) :=
  match search.run path list with
  | none => (none, buffer)
  | some (member, texts) => (some member, texts)

end Search
end Uri
end ResourceRouting
