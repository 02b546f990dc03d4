import ResourceRouting.Proofs.Resolution.Chain
import ResourceRouting.Proofs.Uri.Order

/-!
# What a branch takes

A branch whose template consists of segments takes a path that can be divided along them.  Of the
branches that take a path none is preferred to the one that is found.
-/

namespace ResourceRouting
namespace Resolution

open Uri (Segment)

variable {σ : Type}

/-- The empty path is matched by no route. -/
theorem IsRoute.ne_nil_of_match?
    {pattern : Uri.Pattern}
    {segments : List Segment}
    {path : Text}
    {found : Uri.PathMatch}
    (route : IsRoute pattern segments)
    (matched : pattern.match? path = some found) :
    path ≠ [] := by
  rintro rfl
  rw [Uri.Pattern.match?] at matched
  split at matched
  · rename_i isEmpty
    have empty := Uri.Pattern.IsCompiled.eq_empty ⟨_, route.compiled⟩ isEmpty
    obtain ⟨rest, begins⟩ := @Segment.exists_template_eq segments false (.inl route.nonempty)
    have text := route.text
    rw [begins, empty] at text
    cases text
  · cases matched

/-- What a route matches can be divided along its segments. -/
theorem IsRoute.exists_divides
    {pattern : Uri.Pattern}
    {segments : List Segment}
    {path : Text}
    {found : Uri.PathMatch}
    (route : IsRoute pattern segments)
    (matched : pattern.match? path = some found) :
    ∃ texts rest, Segment.Divides segments path texts rest ∧
      found = ⟨(Segment.captured segments texts).map some, Segment.noted rest⟩ := by
  obtain ⟨_, _, matches'⟩ := route.compile
  rw [matches' path (route.ne_nil_of_match? matched)] at matched
  obtain ⟨texts, rest, divides⟩ := Segment.exists_divides_of_match? matched
  rw [divides.match?_shapeOf route.valid] at matched
  exact ⟨texts, rest, divides, (Option.some.inj matched).symm⟩

/-- A route matches what can be divided along its segments. -/
theorem IsRoute.match?_of_divides
    {pattern : Uri.Pattern}
    {segments : List Segment}
    {path rest : Text}
    {texts : List Text}
    (route : IsRoute pattern segments)
    (divides : Segment.Divides segments path texts rest) :
    pattern.match? path =
      some ⟨(Segment.captured segments texts).map some, Segment.noted rest⟩ := by
  obtain ⟨_, _, matches'⟩ := route.compile
  have nonempty : path ≠ [] := by
    rintro rfl
    obtain ⟨fit, _, whole⟩ := divides
    cases fit with
    | nil => exact route.nonempty rfl
    | cons _ _ => cases whole
  rw [matches' path nonempty, divides.match?_shapeOf route.valid]

/-- Nothing but a slash may be left where all of a path has been taken. -/
theorem isTerminal_noted_iff {rest : Text} :
    Uri.PathMatch.isTerminal (Segment.noted rest) = true ↔ rest = [] ∨ rest = ['/'] := by
  by_cases empty : rest = []
  · simp [Segment.noted, Uri.PathMatch.isTerminal, empty]
  · simp [Segment.noted, Uri.PathMatch.isTerminal, empty]

/-- Branches are compared by their patterns, and an operation comes before a locator. -/
def branchOrder : Branch σ → Branch σ → Ordering :=
  compareLex (fun first second => first.pattern.order second.pattern)
    (compareOn Branch.isLocator)

instance : Std.TransCmp (@branchOrder σ) := by
  have patterns : Std.TransCmp fun first second : Branch σ =>
      first.pattern.order second.pattern :=
    { eq_swap := Std.OrientedCmp.eq_swap
      isLE_trans := Std.TransCmp.isLE_trans }
  unfold branchOrder
  infer_instance

theorem better_branchSearch_iff {first second : Branch σ} :
    branchSearch.better first second = true ↔ branchOrder first second = .lt := by
  have unfolded : branchSearch.better first second = Branch.precedes first second := rfl
  rw [unfolded, Branch.precedes, branchOrder, compareLex, compareOn]
  cases first.pattern.order second.pattern with
  | lt => simp
  | gt => simp
  | eq => cases first.isLocator <;> cases second.isLocator <;> decide

/-- No branch that takes a path is preferred to the one that is found. -/
theorem not_precedes_of_branch?
    {resource : Resource σ}
    {rest : Text}
    {branch other : Branch σ}
    {found otherFound : Uri.PathMatch}
    (chosen : branch? resource rest = some (branch, found))
    (present : other ∈ branches resource)
    (matched : other.pattern.match? rest = some otherFound)
    (admits : branchSearch.admits other otherFound.remainder = true) :
    other.precedes branch = false := by
  obtain ⟨_, _, _, _, least, _⟩ :=
    Uri.Search.first_of_find? (fun _ _ => better_branchSearch_iff) chosen
  apply least other present
  rw [Uri.Search.admitted?_eq_some_iff.mpr
    (⟨rfl, matched, admits⟩ : (other, otherFound).1 = other ∧ _ ∧ _)]
  exact Option.some_ne_none _

/-- Without locators a descent has an outcome. -/
theorem isSome_descend_of_noLocators
    {resource : Resource σ}
    (noLocators : resource.locators = [])
    (directory : Directory σ)
    (decode : Bool)
    (state : σ)
    (limit : Nat)
    (template : Text)
    (remainder : Option Text)
    (request : Request) :
    (descend directory decode state limit resource template remainder request).isSome = true := by
  rw [descend.eq_def]
  split
  · rfl
  · split
    · rfl
    · split
      · rfl
      · split <;> rfl
      · rename_i chosen
        have member := mem_locators_of_branch (Uri.Search.of_find?_eq_some chosen).1
        rw [noLocators] at member
        cases member

/-- Where locators lead to resources without locators, one of them is followed at most. -/
theorem isSome_descend_of_shallow
    {resource : Resource σ}
    {directory : Directory σ}
    {state : σ}
    {limit : Nat}
    (shallow : ∀ sub ∈ resource.locators, ∀ request next,
      (sub.locate request state).bind directory = some next → next.locators = [])
    (enough : 0 < limit)
    (decode : Bool)
    (template : Text)
    (remainder : Option Text)
    (request : Request) :
    (descend directory decode state limit resource template remainder request).isSome = true := by
  obtain ⟨less, rfl⟩ := Nat.exists_eq_succ_of_ne_zero (Nat.ne_of_gt enough)
  rw [descend.eq_def]
  split
  · rfl
  · split
    · rfl
    · split
      · rfl
      · split <;> rfl
      · rename_i sub found chosen
        have member := mem_locators_of_branch (Uri.Search.of_find?_eq_some chosen).1
        split
        · rfl
        · split
          · rfl
          · rename_i next located
            exact isSome_descend_of_noLocators (shallow sub member _ next located) ..

/-- A single variable is bound to its value, if the value is text. -/
theorem bind_eq_of_names
    {decode : Bool}
    {pattern : Uri.Pattern}
    {name value : Text}
    (names : pattern.names = [name])
    (remainder : Option Text)
    (request : Request) :
    bind decode pattern ⟨[some value], remainder⟩ request =
      match decodeValue decode value with
      | some text => (request.bind name text, none)
      | none => (request, some (.parameterNotText name)) := by
  simp only [bind, names, List.zip_cons_cons, List.zip_nil_right, bindAll, parameterText_eq]
  cases decodeValue decode value <;> rfl

end Resolution
end ResourceRouting
