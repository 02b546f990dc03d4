import ResourceRouting.Regex.Expr
import ResourceRouting.Text

/-!
# Places in a text

A matcher stands at a place in a text: some characters are behind it and some are ahead.
-/

namespace ResourceRouting
namespace Regex

/-- A place in a text. -/
structure Place where
  /-- How many characters have been passed. -/
  index : Nat
  /-- The character passed last, when there is one. -/
  last : Option Char
  /-- The characters ahead. -/
  ahead : Text
  deriving DecidableEq, Repr

namespace Place

/-- The beginning of a text. -/
def start (text : Text) : Place := ⟨0, none, text⟩

/-- The place behind the next character, when there is one that the set contains. -/
def pass? (place : Place) (set : CharSet) : Option Place :=
  match place.ahead with
  | [] => none
  | character :: rest =>
      if set.contains character then some ⟨place.index + 1, some character, rest⟩ else none

/-- The text from one place to a later one. -/
def textTo (place later : Place) : Text :=
  place.ahead.take (later.index - place.index)

/-- All places from this one to the end of the text, in order. -/
def onwardFrom (index : Nat) (last : Option Char) : Text → List Place
  | [] => [⟨index, last, []⟩]
  | character :: rest =>
      ⟨index, last, character :: rest⟩ :: onwardFrom (index + 1) (some character) rest

/-- All places from this one to the end of the text, in order. -/
def onward (place : Place) : List Place :=
  onwardFrom place.index place.last place.ahead

/-- Whether the place is at an edge of a word of the given characters. -/
def isWordEdge (place : Place) (edge : WordEdge) (members : CharSet) : Bool :=
  let behind := place.last.any members.contains
  let ahead := place.ahead.head?.any members.contains
  match edge with
  | .boundary => behind != ahead
  | .inside => behind == ahead
  | .start => !behind && ahead
  | .finish => behind && !ahead
  | .notAfter => !behind
  | .notBefore => !ahead

/-- Whether a condition holds at the place. -/
def satisfies (place : Place) : Anchor → Bool
  | .textStart => place.last.isNone
  | .textEnd => place.ahead.isEmpty
  | .lineStart => place.last.all (· = '\n')
  | .lineEnd => place.ahead.head?.all (· = '\n')
  | .crlfLineStart =>
      place.last.all fun last =>
        last = '\n' || (last = '\r' && place.ahead.head? ≠ some '\n')
  | .crlfLineEnd =>
      place.ahead.head?.all fun next =>
        next = '\r' || (next = '\n' && place.last ≠ some '\r')
  | .word edge members => place.isWordEdge edge members

end Place
end Regex
end ResourceRouting
