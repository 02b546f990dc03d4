import ResourceRouting.Regex.Place

/-!
# Matching

An expression is matched by trying its alternatives in the order of preference and going on with
what has to follow; the first way that reaches the end wins.  The result notes the text of each
group, the last repetition of a group counting.
-/

namespace ResourceRouting
namespace Regex

/-- The texts of groups by number; of several notes on one group the first counts. -/
abbrev Notes := List (Nat × Text)

/-- What has to follow: it answers with the notes of the rest of the match. -/
abbrev Goal := Place → Option Notes

/-- A note on a group, unless a later repetition of the group has been noted. -/
def note (index : Nat) (text : Text) (notes : Notes) : Notes :=
  if (notes.lookup index).isSome then notes else (index, text) :: notes

/-- The first of two ways, or the second one if it fails. -/
def orElse (first second : Unit → Option Notes) : Option Notes :=
  match first () with
  | some notes => some notes
  | none => second ()

/-- More repetitions rather than fewer, or the other way round if the repetition is lazy. -/
def prefer (greedy : Bool) (more fewer : Unit → Option Notes) : Option Notes :=
  if greedy then orElse more fewer else orElse fewer more

/-- Repeats an expression any number of times; each repetition has to consume something. -/
def again
    (body : Goal → Goal)
    (greedy : Bool)
    (goal : Goal)
    (place : Place) :
    Option Notes :=
  prefer greedy
    (fun _ =>
      body
        (fun next =>
          if _further : next.ahead.length < place.ahead.length then
            again body greedy goal next
          else
            none)
        place)
    (fun _ => goal place)
termination_by place.ahead.length

/-- Repeats an expression at least once; a first repetition that consumes nothing is the last. -/
def onceOrMore
    (body : Goal → Goal)
    (greedy : Bool)
    (goal : Goal)
    (place : Place) :
    Option Notes :=
  body
    (fun next =>
      if next.ahead.length < place.ahead.length then again body greedy goal next else goal next)
    place

/-- Repeats an expression a fixed number of times. -/
def exactly (body : Goal → Goal) : Nat → Goal → Goal
  | 0, goal => goal
  | count + 1, goal => exactly body count (body goal)

/-- Repeats an expression at most a fixed number of times. -/
def atMost (body : Goal → Goal) (greedy : Bool) (goal : Goal) : Nat → Goal
  | 0 => goal
  | count + 1 => fun place =>
      prefer greedy (fun _ => body (atMost body greedy goal count) place) (fun _ => goal place)

namespace Expr

/-- Matches an expression at a place so that the goal is reached behind it. -/
def run : Expr → Goal → Goal
  | empty, goal, place => goal place
  | chars set, goal, place => (place.pass? set).bind goal
  | anchor condition, goal, place => if place.satisfies condition then goal place else none
  | seq first second, goal, place => first.run (second.run goal) place
  | alt first second, goal, place =>
      orElse (fun _ => first.run goal place) (fun _ => second.run goal place)
  | group index inner, goal, place =>
      inner.run (fun next => (goal next).map (note index (place.textTo next))) place
  | repeated least (some most) greedy inner, goal, place =>
      exactly inner.run least (atMost inner.run greedy goal (most - least)) place
  | repeated 0 none greedy inner, goal, place =>
      prefer greedy (fun _ => onceOrMore inner.run greedy goal place) (fun _ => goal place)
  | repeated (least + 1) none greedy inner, goal, place =>
      exactly inner.run least (onceOrMore inner.run greedy goal) place

end Expr
end Regex
end ResourceRouting
