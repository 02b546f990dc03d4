import ResourceRouting.Proofs.Uri.Search
import ResourceRouting.Resolution

/-!
# The way to a target

The patterns that are matched on the way down from a root resource, and what each step of the
descent does.
-/

namespace ResourceRouting
namespace Resolution

variable {σ : Type}

/-- The patterns that are matched on the way down from a resource, in order. -/
def descentTrail
    (directory : Directory σ)
    (decode : Bool)
    (state : σ)
    (limit : Nat)
    (resource : Resource σ)
    (remainder : Option Text)
    (request : Request) :
    List Uri.Pattern :=
  match remainder with
  | none => []
  | some rest =>
      if Uri.PathMatch.isTerminal (some rest) then
        []
      else
        match branch? resource rest with
        | none => []
        | some (.operation sub, _) => [sub.pattern]
        | some (.locator sub, found) =>
            match bind decode sub.pattern found request with
            | (_, some _) => [sub.pattern]
            | (bound, none) =>
                match (sub.locate bound state).bind directory with
                | none => [sub.pattern]
                | some next =>
                    match limit with
                    | 0 => [sub.pattern]
                    | less + 1 =>
                        sub.pattern ::
                          descentTrail directory decode state less next found.remainder bound

/-- The patterns that are matched on the way to a target: the root first, then on the way down. -/
def trail
    (resources : List (Resource σ))
    (directory : Directory σ)
    (decode : Bool)
    (state : σ)
    (limit : Nat)
    (request : Request) :
    List Uri.Pattern :=
  match root? resources request.path with
  | none => []
  | some (resource, found) =>
      match bind decode resource.pattern found request with
      | (_, some _) => [resource.pattern]
      | (bound, none) =>
          resource.pattern ::
            descentTrail directory decode state limit resource found.remainder bound

/-- The only root resource takes a path that it matches with an admitted remainder. -/
theorem root?_of_only
    {resource : Resource σ}
    {path : Text}
    {found : Uri.PathMatch}
    (matched : resource.pattern.match? path = some found)
    (admits : rootSearch.admits resource found.remainder = true) :
    root? [resource] path = some (resource, found) := by
  rw [root?, Uri.Search.find?_singleton]
  exact Uri.Search.admitted?_eq_some_iff.mpr ⟨rfl, matched, admits⟩

/-- The only branch of a resource takes a path that it matches with an admitted remainder. -/
theorem branch?_of_only
    {resource : Resource σ}
    {branch : Branch σ}
    {path : Text}
    {found : Uri.PathMatch}
    (only : branches resource = [branch])
    (matched : branch.pattern.match? path = some found)
    (admits : branchSearch.admits branch found.remainder = true) :
    branch? resource path = some (branch, found) := by
  rw [branch?, only, Uri.Search.find?_singleton]
  exact Uri.Search.admitted?_eq_some_iff.mpr ⟨rfl, matched, admits⟩

/--
How a descent finds a target: it arrives, or an operation takes what is left of the path, or a
locator does and the descent goes on from the resource that it finds.
-/
theorem descend_cases
    {directory : Directory σ}
    {decode : Bool}
    {state : σ}
    {limit : Nat}
    {resource : Resource σ}
    {template : Text}
    {remainder : Option Text}
    {request bound : Request}
    {target : Target σ}
    (result : descend directory decode state limit resource template remainder request =
      some (bound, .ok target)) :
    (Uri.PathMatch.isTerminal remainder = true ∧ bound = request ∧
        target = ⟨resource, resource.operations, template⟩ ∧
        descentTrail directory decode state limit resource remainder request = []) ∨
      (∃ rest sub found,
        remainder = some rest ∧ Uri.PathMatch.isTerminal (some rest) = false ∧
          branch? resource rest = some (.operation sub, found) ∧
          bind decode sub.pattern found request = (bound, none) ∧
            target = ⟨resource, operationsOf resource sub.pattern, template ++ sub.pattern.text⟩ ∧
              descentTrail directory decode state limit resource remainder request =
                [sub.pattern]) ∨
      ∃ rest sub found middle next less,
        remainder = some rest ∧ Uri.PathMatch.isTerminal (some rest) = false ∧
          branch? resource rest = some (.locator sub, found) ∧
          bind decode sub.pattern found request = (middle, none) ∧
            (sub.locate middle state).bind directory = some next ∧
              descend directory decode state less next (template ++ sub.pattern.text)
                  found.remainder middle =
                some (bound, .ok target) ∧
                limit = less + 1 ∧
                  descentTrail directory decode state limit resource remainder request =
                    sub.pattern ::
                      descentTrail directory decode state less next found.remainder middle := by
  have arrived : ∀ {request : Request} {template : Text},
      arrive resource template request = (bound, .ok target) →
        bound = request ∧ target = ⟨resource, resource.operations, template⟩ := by
    intro request template result
    unfold arrive at result
    split at result
    · cases result
    · cases result
      exact ⟨rfl, rfl⟩
  unfold descend at result
  split at result
  · obtain ⟨rfl, rfl⟩ := arrived (Option.some.inj result)
    exact .inl ⟨rfl, rfl, rfl, by rw [descentTrail.eq_def]⟩
  · rename_i rest
    split at result
    · rename_i terminal
      obtain ⟨rfl, rfl⟩ := arrived (Option.some.inj result)
      refine .inl ⟨terminal, rfl, rfl, ?_⟩
      rw [descentTrail.eq_def]
      exact if_pos terminal
    · rename_i notTerminal
      right
      split at result
      · cases result
      · rename_i sub found chosen
        left
        split at result
        · cases result
        · rename_i bound' binding
          cases result
          refine ⟨rest, sub, found, rfl, Bool.eq_false_iff.mpr notTerminal, chosen, binding, rfl, ?_⟩
          rw [descentTrail.eq_def]
          simp only [if_neg notTerminal, chosen]
      · rename_i sub found chosen
        right
        split at result
        · cases result
        · rename_i middle binding
          split at result
          · cases result
          · rename_i next located
            cases limit with
            | zero => cases result
            | succ less =>
                refine ⟨rest, sub, found, middle, next, less, rfl,
                  Bool.eq_false_iff.mpr notTerminal, chosen, binding, located, result, rfl, ?_⟩
                rw [descentTrail.eq_def]
                simp only [if_neg notTerminal, chosen, binding, located]

/-- A target is found by a descent from the best root resource. -/
theorem exists_descend_of_resolve?
    {resources : List (Resource σ)}
    {directory : Directory σ}
    {decode : Bool}
    {state : σ}
    {limit : Nat}
    {request bound : Request}
    {target : Target σ}
    (result : resolve? resources directory decode state limit request =
      some (bound, .ok target)) :
    ∃ resource found after,
      root? resources request.path = some (resource, found) ∧
        bind decode resource.pattern found request = (after, none) ∧
          descend directory decode state limit resource resource.pattern.text found.remainder
              after =
            some (bound, .ok target) ∧
            trail resources directory decode state limit request =
              resource.pattern ::
                descentTrail directory decode state limit resource found.remainder after := by
  unfold resolve? at result
  split at result
  · cases result
  · rename_i resource found chosen
    split at result
    · cases result
    · rename_i after binding
      exact ⟨resource, found, after, chosen, binding, result, by simp only [trail, chosen, binding]⟩

theorem mem_subOperations_of_branch
    {resource : Resource σ}
    {sub : SubOperation σ}
    (present : .operation sub ∈ branches resource) :
    sub ∈ resource.subOperations := by
  simpa [branches] using present

theorem mem_locators_of_branch
    {resource : Resource σ}
    {sub : Locator σ}
    (present : .locator sub ∈ branches resource) :
    sub ∈ resource.locators := by
  simpa [branches] using present

/--
A pattern that is matched on the way down belongs to a member of the resource, or is matched
below the resource that one of its locators finds.
-/
theorem mem_descentTrail_cases
    {directory : Directory σ}
    {decode : Bool}
    {state : σ}
    {limit : Nat}
    {resource : Resource σ}
    {remainder : Option Text}
    {request : Request}
    {pattern : Uri.Pattern}
    (present : pattern ∈ descentTrail directory decode state limit resource remainder request) :
    (∃ sub ∈ resource.subOperations, pattern = sub.pattern) ∨
      ∃ sub ∈ resource.locators, pattern = sub.pattern ∨
        ∃ bound next less left, (sub.locate bound state).bind directory = some next ∧
          pattern ∈ descentTrail directory decode state less next left bound := by
  rw [descentTrail.eq_def] at present
  split at present
  · cases present
  · split at present
    · cases present
    · split at present
      · cases present
      · rename_i sub _ chosen
        have member := mem_subOperations_of_branch (Uri.Search.of_find?_eq_some chosen).1
        exact .inl ⟨sub, member, List.mem_singleton.mp present⟩
      · rename_i sub found chosen
        have member := mem_locators_of_branch (Uri.Search.of_find?_eq_some chosen).1
        refine .inr ⟨sub, member, ?_⟩
        split at present
        · exact .inl (List.mem_singleton.mp present)
        · rename_i bound _
          split at present
          · exact .inl (List.mem_singleton.mp present)
          · rename_i next located
            split at present
            · exact .inl (List.mem_singleton.mp present)
            · rename_i less
              rcases List.mem_cons.mp present with own | below
              · exact .inl own
              · exact .inr ⟨bound, next, less, found.remainder, located, below⟩

end Resolution
end ResourceRouting
