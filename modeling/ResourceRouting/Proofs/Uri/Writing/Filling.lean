import Mathlib.Data.List.Forall2
import ResourceRouting.Proofs.Uri.Writing

/-!
# Filling placeholders according to a plan

If it is known for each name which value it has and what component the value is prepared for, each
step in writing a URI can be taken by itself.  All steps can be taken exactly if each of them can.
-/

namespace ResourceRouting
namespace Uri

namespace Step

/-- The name and the component of a placeholder. -/
def occurrence? : Step → Option (Text × Component)
  | value component name => some (name, component)
  | _ => none

/-- The names that occur among some steps, each with its component. -/
def occurrences (steps : List Step) : List (Text × Component) :=
  steps.filterMap occurrence?

theorem occurrences_append (first second : List Step) :
    occurrences (first ++ second) = occurrences first ++ occurrences second :=
  List.filterMap_append

/-- What is to be written for placeholders, each taken by itself. -/
structure Plan where
  /-- The value of a name, if it has one. -/
  value? : Text → Option Text
  /-- The component that the value of a name is prepared for where the name occurs. -/
  home : Component → Text → Component

/-- Takes a step according to a plan. -/
def fill (mode : BuildMode) (plan : Plan) : Step → Except BuildError Written
  | mark text => .ok (.mark text)
  | literal component text => .ok (.literal component text)
  | value component name =>
      match plan.value? name with
      | none => if mode.asTemplate then .ok (.kept component name) else .error (.missing name)
      | some given =>
          (Values.prepare (plan.home component name)
            (mode.within (plan.home component name)).encode given).map (.value component name)
  | unclosed part => .error (.malformed part)

/-- A placeholder is kept without a value, and otherwise replaced by what is prepared. -/
theorem fill_value_cases
    {mode : BuildMode}
    {plan : Plan}
    {component : Component}
    {name : Text}
    {one : Written}
    (filled : (value component name).fill mode plan = .ok one) :
    (mode.asTemplate = true ∧ one = .kept component name) ∨
      ∃ given text, plan.value? name = some given ∧
        Values.prepare (plan.home component name)
          (mode.within (plan.home component name)).encode given = .ok text ∧
        one = .value component name text := by
  rw [fill] at filled
  split at filled
  · split at filled
    · rename_i asTemplate
      cases filled
      exact .inl ⟨asTemplate, rfl⟩
    · cases filled
  · rename_i given found
    cases prepared : Values.prepare (plan.home component name)
        (mode.within (plan.home component name)).encode given with
    | error fault =>
        rw [prepared] at filled
        cases filled
    | ok text =>
        rw [prepared] at filled
        cases filled
        exact .inr ⟨given, text, found, prepared, rfl⟩

/-- Takes steps according to a plan. -/
def fillAll (mode : BuildMode) (plan : Plan) : List Step → Except BuildError (List Written)
  | [] => .ok []
  | step :: steps =>
      match step.fill mode plan with
      | .error error => .error error
      | .ok first => (fillAll mode plan steps).map (first :: ·)

/-- All steps are taken exactly if each of them is. -/
theorem fillAll_eq_ok_iff
    {mode : BuildMode}
    {plan : Plan}
    {steps : List Step}
    {written : List Written} :
    fillAll mode plan steps = .ok written ↔
      List.Forall₂ (fun step one => step.fill mode plan = .ok one) steps written := by
  induction steps generalizing written with
  | nil =>
      rw [fillAll]
      constructor
      · intro equal
        cases equal
        exact .nil
      · rintro ⟨⟩
        rfl
  | cons step steps ih =>
      rw [fillAll]
      constructor
      · intro filled
        cases first : step.fill mode plan with
        | error fault =>
            rw [first] at filled
            cases filled
        | ok one =>
            rw [first] at filled
            cases more : fillAll mode plan steps with
            | error fault =>
                rw [more] at filled
                cases filled
            | ok others =>
                rw [more] at filled
                cases filled
                exact .cons first (ih.mp more)
      · rintro ⟨⟩
        rename_i first others
        rw [first, ih.mpr others]
        rfl

/-- Of steps that are all taken each one is. -/
theorem exists_fill_of_mem
    {mode : BuildMode}
    {plan : Plan}
    {steps : List Step}
    {written : List Written}
    (filled : fillAll mode plan steps = .ok written)
    {step : Step}
    (present : step ∈ steps) :
    ∃ one, step.fill mode plan = .ok one := by
  induction fillAll_eq_ok_iff.mp filled with
  | nil => cases present
  | cons first _ ih =>
      rcases List.mem_cons.mp present with rfl | later
      · exact ⟨_, first⟩
      · exact ih (fillAll_eq_ok_iff.mpr ‹_›) later

/-- What was written was written by one of the steps. -/
theorem exists_mem_of_fillAll
    {mode : BuildMode}
    {plan : Plan}
    {steps : List Step}
    {written : List Written}
    (filled : fillAll mode plan steps = .ok written)
    {one : Written}
    (present : one ∈ written) :
    ∃ step ∈ steps, step.fill mode plan = .ok one := by
  induction fillAll_eq_ok_iff.mp filled with
  | nil => cases present
  | cons first _ ih =>
      rcases List.mem_cons.mp present with rfl | later
      · exact ⟨_, List.mem_cons_self .., first⟩
      · obtain ⟨step, found, own⟩ := ih (fillAll_eq_ok_iff.mpr ‹_›) later
        exact ⟨step, List.mem_cons_of_mem _ found, own⟩

/-- Steps one after the other are taken one after the other. -/
theorem exists_append_of_fillAll
    {mode : BuildMode}
    {plan : Plan}
    {first second : List Step}
    {written : List Written}
    (filled : fillAll mode plan (first ++ second) = .ok written) :
    ∃ front back, written = front ++ back ∧
      fillAll mode plan first = .ok front ∧ fillAll mode plan second = .ok back := by
  induction first generalizing written with
  | nil => exact ⟨[], written, rfl, rfl, filled⟩
  | cons step first ih =>
      rw [List.cons_append, fillAll_eq_ok_iff] at filled
      cases filled with
      | cons own others =>
          obtain ⟨front, back, rfl, before, behind⟩ := ih (fillAll_eq_ok_iff.mpr others)
          refine ⟨_ :: front, back, rfl, ?_, behind⟩
          exact fillAll_eq_ok_iff.mpr (.cons own (fillAll_eq_ok_iff.mp before))

/-- If steps cannot all be taken, one of them has the fault. -/
theorem exists_fill_of_fillAll
    {mode : BuildMode}
    {plan : Plan}
    {steps : List Step}
    {error : BuildError}
    (failed : fillAll mode plan steps = .error error) :
    ∃ step ∈ steps, step.fill mode plan = .error error := by
  induction steps with
  | nil => cases failed
  | cons step steps ih =>
      rw [fillAll] at failed
      cases first : step.fill mode plan with
      | error fault =>
          rw [first] at failed
          cases failed
          exact ⟨step, List.mem_cons_self .., first⟩
      | ok one =>
          rw [first] at failed
          cases more : fillAll mode plan steps with
          | error fault =>
              rw [more] at failed
              cases failed
              obtain ⟨later, present, fault⟩ := ih more
              exact ⟨later, List.mem_cons_of_mem _ present, fault⟩
          | ok others =>
              rw [more] at failed
              cases failed

/-- Two plans that agree on each placeholder are carried out alike. -/
theorem fillAll_congr
    {mode : BuildMode}
    {first second : Plan}
    {steps : List Step}
    (agree : ∀ step ∈ steps, step.fill mode first = step.fill mode second) :
    fillAll mode first steps = fillAll mode second steps := by
  induction steps with
  | nil => rfl
  | cons step steps ih =>
      rw [fillAll, fillAll, agree step (List.mem_cons_self ..),
        ih fun other present => agree other (List.mem_cons_of_mem _ present)]

end Step

end Uri
end ResourceRouting
