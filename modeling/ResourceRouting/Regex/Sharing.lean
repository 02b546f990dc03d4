import ResourceRouting.Regex.Matching

/-!
# Matching with shared answers

Whether a goal can be reached from a place does not depend on the way to that place.  The matcher
here asks each question once and keeps the answer, so that the time it takes does not explode
where an expression can match one text in many ways.
-/

namespace ResourceRouting
namespace Regex

/-- Answers for consecutive places, each worked out when it is first asked for. -/
structure Answers where
  /-- The index of the first place. -/
  first : Nat
  /-- The answers. -/
  entries : Array (Thunk (Option Notes))

namespace Answers

/-- The answers of a goal at a place and at all places behind it. -/
def ofGoal (place : Place) (goal : Goal) : Answers where
  first := place.index
  entries := (place.onward.map fun next => Thunk.mk fun _ => goal next).toArray

/-- The answer for a place. -/
def get (answers : Answers) (place : Place) : Option Notes :=
  match answers.entries[place.index - answers.first]? with
  | none => none
  | some answer => answer.get

end Answers

/-- The answer for a place among answers that begin at a given index. -/
def pick (first : Nat) (answers : List (Thunk (Option Notes))) (place : Place) : Option Notes :=
  match answers[place.index - first]? with
  | none => none
  | some answer => answer.get

/-- The answers of a repetition at consecutive places; each one asks only later ones. -/
def againAnswers
    (body : Goal → Goal)
    (greedy : Bool)
    (goal : Goal) :
    List Place → List (Thunk (Option Notes))
  | [] => []
  | place :: later =>
      let answers := againAnswers body greedy goal later
      let answer := Thunk.mk fun _ =>
        prefer greedy
          (fun _ =>
            body
              (fun next =>
                if next.index = place.index then none else pick (place.index + 1) answers next)
              place)
          (fun _ => goal place)
      answer :: answers

/-- Repeats an expression at least once, sharing the answers of later repetitions. -/
def onceOrMoreShared
    (body : Goal → Goal)
    (greedy : Bool)
    (goal : Goal)
    (place : Place) :
    Option Notes :=
  let answers := againAnswers body greedy goal place.onward
  body
    (fun next => if next.index = place.index then goal next else pick place.index answers next)
    place

/-- Repeats an expression a fixed number of times, sharing the answers after each. -/
def exactlyShared (body : Goal → Goal) (place : Place) : Nat → Goal → Goal
  | 0, goal => goal
  | count + 1, goal =>
      let answers := Answers.ofGoal place (body goal)
      exactlyShared body place count answers.get

/-- The goal of at most so many repetitions, sharing the answers after each. -/
def atMostShared (body : Goal → Goal) (greedy : Bool) (goal : Goal) (place : Place) : Nat → Goal
  | 0 => goal
  | count + 1 =>
      let fewer := atMostShared body greedy goal place count
      let answers := Answers.ofGoal place fun next =>
        prefer greedy (fun _ => body fewer next) (fun _ => goal next)
      answers.get

namespace Expr

/-- Matches an expression at a place so that the goal is reached behind it, sharing answers. -/
def runShared : Expr → Goal → Goal
  | empty, goal, place => goal place
  | chars set, goal, place => (place.pass? set).bind goal
  | anchor condition, goal, place => if place.satisfies condition then goal place else none
  | seq first second, goal, place =>
      if first.branches && second.branches then
        let answers := Answers.ofGoal place (second.runShared goal)
        first.runShared answers.get place
      else
        first.runShared (second.runShared goal) place
  | alt first second, goal, place =>
      orElse (fun _ => first.runShared goal place) (fun _ => second.runShared goal place)
  | group index inner, goal, place =>
      inner.runShared (fun next => (goal next).map (note index (place.textTo next))) place
  | repeated least (some most) greedy inner, goal, place =>
      exactlyShared inner.runShared place least
        (atMostShared inner.runShared greedy goal place (most - least)) place
  | repeated 0 none greedy inner, goal, place =>
      prefer greedy (fun _ => onceOrMoreShared inner.runShared greedy goal place)
        (fun _ => goal place)
  | repeated (least + 1) none greedy inner, goal, place =>
      exactlyShared inner.runShared place least (onceOrMoreShared inner.runShared greedy goal)
        place

end Expr
end Regex
end ResourceRouting
