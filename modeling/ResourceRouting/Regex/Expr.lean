import ResourceRouting.Regex.CharSet

/-!
# Regular expressions

The expressions that a pattern is matched with, and what can be told of them without a text.
-/

namespace ResourceRouting
namespace Regex

/-- The ways to stand at the edge of a word. -/
inductive WordEdge
  /-- A word begins or ends here. -/
  | boundary
  /-- No word begins or ends here. -/
  | inside
  /-- A word begins here. -/
  | start
  /-- A word ends here. -/
  | finish
  /-- No word character stands before. -/
  | notAfter
  /-- No word character stands behind. -/
  | notBefore
  deriving DecidableEq, Repr

/-- Conditions on a place in the text that consume nothing. -/
inductive Anchor
  /-- The beginning of the text. -/
  | textStart
  /-- The end of the text. -/
  | textEnd
  /-- The beginning of a line that line feeds divide. -/
  | lineStart
  /-- The end of a line that line feeds divide. -/
  | lineEnd
  /-- The beginning of a line that carriage returns and line feeds divide. -/
  | crlfLineStart
  /-- The end of a line that carriage returns and line feeds divide. -/
  | crlfLineEnd
  /-- An edge of a word, whose characters are those of `members`. -/
  | word (edge : WordEdge) (members : CharSet)
  deriving DecidableEq, Repr

/-- A regular expression. -/
inductive Expr
  /-- Nothing. -/
  | empty
  /-- One character of a set. -/
  | chars (set : CharSet)
  /-- A condition on the place. -/
  | anchor (anchor : Anchor)
  /-- One expression after another. -/
  | seq (first second : Expr)
  /-- The first expression, or else the second. -/
  | alt (first second : Expr)
  /-- An expression whose text is noted under a number. -/
  | group (index : Nat) (inner : Expr)
  /--
  At least `least` repetitions, and at most `most` where there is a bound; greedy repetition
  prefers more of them and lazy repetition fewer.
  -/
  | repeated (least : Nat) (most : Option Nat) (greedy : Bool) (inner : Expr)
  deriving DecidableEq, Repr

namespace Expr

/-- Whether the expression consumes nothing however it matches. -/
def consumesNothing : Expr → Bool
  | empty => true
  | chars _ => false
  | anchor _ => true
  | seq first second => first.consumesNothing && second.consumesNothing
  | alt first second => first.consumesNothing && second.consumesNothing
  | group _ inner => inner.consumesNothing
  | repeated _ _ _ inner => inner.consumesNothing

/--
A repetition.  Repeating what consumes nothing more than once has no effect, no repetition at
all is the empty expression, groups inside included, and one repetition is the expression itself.
-/
def times (least : Nat) (most : Option Nat) (greedy : Bool) (inner : Expr) : Expr :=
  let least' := if inner.consumesNothing then min least 1 else least
  let most' := if inner.consumesNothing then some (min (most.getD 1) 1) else most
  if most' = some 0 then empty
  else if least' = 1 && most' = some 1 then inner
  else repeated least' most' greedy inner

/-- A single character. -/
def char (character : Char) : Expr := chars (.single character)

/-- Expressions one after another, joined from the left. -/
def concat : List Expr → Expr
  | [] => empty
  | first :: rest => rest.foldl seq first

/-- The first of some expressions that leads to a match. -/
def oneOf : List Expr → Expr
  | [] => empty
  | [only] => only
  | first :: rest => alt first (oneOf rest)

/-- The greatest number of a group, or zero without groups. -/
def groupCount : Expr → Nat
  | empty => 0
  | chars _ => 0
  | anchor _ => 0
  | seq first second => max first.groupCount second.groupCount
  | alt first second => max first.groupCount second.groupCount
  | group index inner => max index inner.groupCount
  | repeated _ _ _ inner => inner.groupCount

/-- Whether the expression can go on in more than one way from one place. -/
def branches : Expr → Bool
  | empty => false
  | chars _ => false
  | anchor _ => false
  | seq first second => first.branches || second.branches
  | alt _ _ => true
  | group _ inner => inner.branches
  | repeated _ _ _ _ => true

/-- Whether the expression asks at some place for the edge of a word of the given characters. -/
def usesEdgeOf (members : CharSet) : Expr → Bool
  | empty => false
  | chars _ => false
  | anchor (.word _ others) => others = members
  | anchor _ => false
  | seq first second => first.usesEdgeOf members || second.usesEdgeOf members
  | alt first second => first.usesEdgeOf members || second.usesEdgeOf members
  | group _ inner => inner.usesEdgeOf members
  | repeated _ _ _ inner => inner.usesEdgeOf members

end Expr
end Regex
end ResourceRouting
