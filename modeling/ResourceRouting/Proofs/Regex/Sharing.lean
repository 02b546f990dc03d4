import ResourceRouting.Proofs.Regex.Place
import ResourceRouting.Regex.Sharing

/-!
# Shared answers are the answers

Matching asks its goal only at places onward.  The matcher that shares answers has one answer for
each of these places, so it answers as the plain matcher does.
-/

namespace ResourceRouting
namespace Regex

/-- Two goals that answer alike at the places onward of a place. -/
def AgreeFrom (place : Place) (first second : Goal) : Prop :=
  ∀ next ∈ place.onward, first next = second next

/-- Agreement goes on at later places. -/
theorem AgreeFrom.onward
    {place later : Place}
    {first second : Goal}
    (agree : AgreeFrom place first second)
    (reached : later ∈ place.onward) :
    AgreeFrom later first second :=
  fun next further => agree next (Place.mem_onward_trans reached further)

theorem AgreeFrom.here
    {place : Place}
    {first second : Goal}
    (agree : AgreeFrom place first second) :
    first place = second place :=
  agree place (Place.self_mem_onward place)

/-- A matcher asks its goal at places onward only. -/
def IsForward (body : Goal → Goal) : Prop :=
  ∀ ⦃place : Place⦄ ⦃first second : Goal⦄,
    AgreeFrom place first second → body first place = body second place

namespace IsForward

variable {body : Goal → Goal}

/-- A matcher turns goals that agree into goals that agree. -/
theorem agreeFrom
    (forward : IsForward body)
    {place : Place}
    {first second : Goal}
    (agree : AgreeFrom place first second) :
    AgreeFrom place (body first) (body second) :=
  fun _ reached => forward (agree.onward reached)

/-- Repeating a fixed number of times asks at places onward only. -/
theorem exactly (forward : IsForward body) (count : Nat) :
    IsForward (Regex.exactly body count) := by
  induction count with
  | zero => exact fun _ _ _ agree => agree.here
  | succ count ih => exact fun _ _ _ agree => ih (forward.agreeFrom agree)

theorem atMost (forward : IsForward body) (greedy : Bool) (count : Nat) :
    IsForward fun goal => Regex.atMost body greedy goal count := by
  induction count with
  | zero => exact fun _ _ _ agree => agree.here
  | succ count ih =>
      intro place first second agree
      have repeated := forward fun next reached => ih (agree.onward reached)
      simp only [Regex.atMost, repeated, agree.here]

/-- Repeating any number of times asks at places onward only. -/
theorem again (forward : IsForward body) (greedy : Bool) :
    IsForward (Regex.again body greedy) := by
  intro place first second agree
  induction length : place.ahead.length using Nat.strongRecOn generalizing place with
  | _ length ih =>
      subst length
      have repeated : body
            (fun next =>
              if _further : next.ahead.length < place.ahead.length then
                Regex.again body greedy first next
              else none) place =
          body
            (fun next =>
              if _further : next.ahead.length < place.ahead.length then
                Regex.again body greedy second next
              else none) place := by
        apply forward
        intro next reached
        by_cases further : next.ahead.length < place.ahead.length
        · simp only [further, dif_pos]
          exact ih _ further (agree.onward reached) rfl
        · simp only [further, dif_neg, not_false_eq_true]
      rw [Regex.again, Regex.again, repeated, agree.here]

theorem onceOrMore (forward : IsForward body) (greedy : Bool) :
    IsForward (Regex.onceOrMore body greedy) := by
  intro place first second agree
  apply forward
  intro next reached
  dsimp only
  split
  · exact forward.again greedy (agree.onward reached)
  · exact agree next reached

end IsForward

/-- Matching an expression asks its goal at places onward only. -/
theorem Expr.run_isForward (expr : Expr) : IsForward expr.run := by
  induction expr with
  | empty => exact fun _ _ _ agree => agree.here
  | chars set =>
      intro place first second agree
      simp only [run]
      cases passed : place.pass? set with
      | none => rfl
      | some next => exact agree next (Place.mem_onward_of_pass? passed)
  | anchor condition =>
      intro place first second agree
      simp only [run, agree.here]
  | seq first second firstForward secondForward =>
      intro place goal other agree
      simp only [run]
      exact firstForward (secondForward.agreeFrom agree)
  | alt first second firstForward secondForward =>
      intro place goal other agree
      simp only [run, firstForward agree, secondForward agree]
  | group index inner forward =>
      intro place goal other agree
      simp only [run]
      apply forward
      intro next reached
      dsimp only
      rw [agree next reached]
  | repeated least most greedy inner forward =>
      intro place goal other agree
      cases most with
      | some most =>
          simp only [run]
          exact forward.exactly least
            fun next reached => forward.atMost greedy _ (agree.onward reached)
      | none =>
          cases least with
          | zero =>
              simp only [run, forward.onceOrMore greedy agree, agree.here]
          | succ least =>
              simp only [run]
              exact forward.exactly least
                fun next reached => forward.onceOrMore greedy (agree.onward reached)

/-- The answers of a goal are what the goal answers. -/
theorem Answers.agreeFrom_get (place : Place) (goal : Goal) :
    AgreeFrom place (Answers.ofGoal place goal).get goal := by
  intro next reached
  simp only [Answers.get, Answers.ofGoal, List.getElem?_toArray, List.getElem?_map,
    Place.getElem?_onward reached, Option.map_some]
  rfl

section Repetition

variable {body : Goal → Goal} (forward : IsForward body)

include forward

/-- Sharing answers between a fixed number of repetitions changes nothing. -/
theorem exactlyShared_agreeFrom
    (place : Place)
    (count : Nat)
    {first second : Goal}
    (agree : AgreeFrom place first second) :
    AgreeFrom place (exactlyShared body place count first) (exactly body count second) := by
  induction count generalizing first second with
  | zero => exact agree
  | succ count ih =>
      apply ih
      intro next reached
      rw [Answers.agreeFrom_get place (body first) next reached]
      exact forward (agree.onward reached)

theorem atMostShared_agreeFrom
    (greedy : Bool)
    (goal : Goal)
    (place : Place)
    (count : Nat) :
    AgreeFrom place (atMostShared body greedy goal place count)
      (atMost body greedy goal count) := by
  induction count with
  | zero => exact fun _ _ => rfl
  | succ count ih =>
      intro next reached
      rw [atMostShared, Answers.agreeFrom_get place _ next reached]
      simp only [atMost, forward (ih.onward reached)]

/-- The answer of a repetition at a place is right if the answers behind the place are. -/
theorem again_eq_of_later
    (greedy : Bool)
    {goal later : Goal}
    {place : Place}
    (right : ∀ next ∈ place.onward, next.index ≠ place.index →
      later next = again body greedy goal next) :
    prefer greedy
        (fun _ => body (fun next => if next.index = place.index then none else later next) place)
        (fun _ => goal place) =
      again body greedy goal place := by
  have repeated :
      body (fun next => if next.index = place.index then none else later next) place =
        body
          (fun next =>
            if _further : next.ahead.length < place.ahead.length then
              again body greedy goal next
            else none) place := by
    apply forward
    intro next reached
    dsimp only
    by_cases same : next.index = place.index
    · rw [if_pos same, dif_neg (mt (Place.index_ne_iff_shorter reached).mpr (not_not_intro same))]
    · have further := (Place.index_ne_iff_shorter reached).mp same
      rw [if_neg same, dif_pos further, right next reached same]
  rw [again, repeated]

/-- The answers of a repetition are what the repetition answers. -/
theorem pick_againAnswers
    (greedy : Bool)
    (goal : Goal)
    (place : Place) :
    AgreeFrom place (pick place.index (againAnswers body greedy goal place.onward))
      (again body greedy goal) := by
  -- Along the text: the answer at a place asks only for answers behind it.
  induction place using Place.inductionOn with
  | ended place ahead =>
      intro next reached
      rw [Place.onward_of_nil ahead, List.mem_singleton] at reached
      rw [reached, Place.onward_of_nil ahead, pick, Nat.sub_self]
      apply again_eq_of_later forward greedy
      intro other further differ
      rw [Place.onward_of_nil ahead, List.mem_singleton] at further
      exact absurd (congrArg Place.index further) differ
  | step place character rest ahead ih =>
      intro next reached
      rw [Place.onward_of_cons ahead, List.mem_cons] at reached
      rw [Place.onward_of_cons ahead, pick]
      rcases reached with same | behind
      · rw [same, Nat.sub_self]
        apply again_eq_of_later forward greedy
        intro other further differ
        rw [Place.onward_of_cons ahead, List.mem_cons] at further
        rcases further with equal | further
        · exact absurd (congrArg Place.index equal) differ
        · exact ih other further
      · have moved := (Place.index_add_length behind).1
        rw [Place.index_next] at moved
        have distance : next.index - place.index = next.index - (place.index + 1) + 1 := by
          omega
        rw [distance, againAnswers, List.getElem?_cons_succ]
        exact ih next behind

/-- Sharing answers between one or more repetitions changes nothing. -/
theorem onceOrMoreShared_eq
    (greedy : Bool)
    (goal : Goal)
    (place : Place) :
    onceOrMoreShared body greedy goal place = onceOrMore body greedy goal place := by
  apply forward
  intro next reached
  dsimp only
  by_cases same : next.index = place.index
  · rw [if_pos same, if_neg (mt (Place.index_ne_iff_shorter reached).mpr (not_not_intro same))]
  · have further := (Place.index_ne_iff_shorter reached).mp same
    rw [if_neg same, if_pos further, pick_againAnswers forward greedy goal place next reached]

end Repetition

/-- The matcher that shares answers is the plain one. -/
theorem Expr.runShared_eq_run (expr : Expr) : expr.runShared = expr.run := by
  induction expr with
  | empty => rfl
  | chars set => rfl
  | anchor condition => rfl
  | seq first second firstEqual secondEqual =>
      funext goal place
      simp only [runShared, run, firstEqual, secondEqual]
      split
      · exact first.run_isForward (Answers.agreeFrom_get place (second.run goal))
      · rfl
  | alt first second firstEqual secondEqual =>
      funext goal place
      simp only [runShared, run, firstEqual, secondEqual]
  | group index inner equal =>
      funext goal place
      simp only [runShared, run, equal]
  | repeated least most greedy inner equal =>
      have forward := inner.run_isForward
      funext goal place
      cases most with
      | some most =>
          simp only [runShared, run, equal]
          exact exactlyShared_agreeFrom forward place least
            (atMostShared_agreeFrom forward greedy goal place (most - least)) place
            (Place.self_mem_onward place)
      | none =>
          cases least with
          | zero => simp only [runShared, run, equal, onceOrMoreShared_eq forward]
          | succ least =>
              simp only [runShared, run, equal]
              exact exactlyShared_agreeFrom forward place least
                (fun next _ => onceOrMoreShared_eq forward greedy goal next) place
                (Place.self_mem_onward place)

end Regex
end ResourceRouting
