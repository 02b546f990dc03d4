import ResourceRouting.Proofs.Resolution.Branches
import ResourceRouting.Proofs.Resolution.Root
import ResourceRouting.Proofs.Resource.Declared
import ResourceRouting.Proofs.Uri.Ranking

/-!
# The order of declaration

Of the branches that take a path the least one is found, whatever the order in which they have been
declared.  So the members of resources may be rearranged: resolution then leads to the same place,
unless locators have the same pattern or operations of one pattern have different templates.
-/

namespace ResourceRouting

variable {σ : Type}

namespace Resource

/-- The order in which members below a resource are declared decides nothing. -/
structure IsUnambiguous (resource : Resource σ) : Prop where
  /-- The members have compiled patterns. -/
  compiled : resource.HasCompiledMembers
  /-- No two locators have the same pattern. -/
  locators : resource.locators.Pairwise fun first second =>
    first.pattern.same second.pattern = false
  /-- Operations with the same pattern have the same template. -/
  subOperations : ∀ first ∈ resource.subOperations, ∀ second ∈ resource.subOperations,
    first.pattern.same second.pattern = true → first.pattern.text = second.pattern.text

/-- A resource, and one whose members below it are declared in another order. -/
inductive Rearranged : Resource σ → Resource σ → Prop
  /-- Nothing is rearranged. -/
  | refl (resource : Resource σ) : Rearranged resource resource
  /-- The operations below a resource and its locators change places. -/
  | permuted
      {resource : Resource σ}
      {subOperations : List (SubOperation σ)}
      {locators : List (Locator σ)}
      (unambiguous : resource.IsUnambiguous)
      (subOperationsPermuted : subOperations.Perm resource.subOperations)
      (locatorsPermuted : locators.Perm resource.locators) :
      Rearranged resource { resource with subOperations, locators }

namespace Rearranged

variable {first second : Resource σ} (rearranged : Rearranged first second)

include rearranged

theorem pattern : second.pattern = first.pattern := by
  cases rearranged <;> rfl

theorem operations : second.operations = first.operations := by
  cases rearranged <;> rfl

theorem hasSubResources : second.hasSubResources = first.hasSubResources := by
  cases rearranged with
  | refl => rfl
  | permuted _ subOperations locators =>
      simp only [Resource.hasSubResources, subOperations.isEmpty_eq, locators.isEmpty_eq]

/-- The operations of a pattern change places at most. -/
theorem operationsOf (pattern : Uri.Pattern) :
    (Resolution.operationsOf second pattern).Perm (Resolution.operationsOf first pattern) := by
  cases rearranged with
  | refl => exact .refl _
  | permuted _ subOperations _ => exact (subOperations.filter _).map _

end Rearranged
end Resource

namespace Resolution

open Resource (Rearranged)

/--
A branch takes a path if its pattern matches; an operation leaves nothing of the path but a slash.
-/
def Takes (path : Text) (branch : Branch σ) (found : Uri.PathMatch) : Prop :=
  branch.pattern.match? path = some found ∧
    (branch.isLocator = true ∨ Uri.PathMatch.isTerminal found.remainder = true)

theorem admitted?_branchSearch_iff
    {path : Text}
    {branch chosen : Branch σ}
    {found : Uri.PathMatch} :
    branchSearch.admitted? path branch = some (chosen, found) ↔
      chosen = branch ∧ Takes path branch found := by
  rw [Uri.Search.admitted?_eq_some_iff, Takes, ← Bool.or_eq_true]
  rfl

theorem Takes.admitted?_ne_none
    {path : Text}
    {branch : Branch σ}
    {found : Uri.PathMatch}
    (takes : Takes path branch found) :
    branchSearch.admitted? path branch ≠ none := by
  rw [admitted?_branchSearch_iff.mpr ⟨rfl, takes⟩]
  exact Option.some_ne_none _

/--
The branch that is found is the least one of those that take the path, and the first such one; the
buffer holds what it matches.  The buffer is left alone if no branch takes the path.
-/
theorem branchInto_cases (resource : Resource σ) (path : Text) (buffer : List (Option Text)) :
    ((∀ branch ∈ branches resource, ∀ found, ¬Takes path branch found) ∧
        branchInto resource path buffer = (none, buffer)) ∨
      ∃ earlier branch later found,
        branches resource = earlier ++ branch :: later ∧ Takes path branch found ∧
          (∀ other ∈ branches resource, ∀ taken, Takes path other taken →
            branchOrder other branch ≠ .lt) ∧
          (∀ other ∈ earlier, ∀ taken, Takes path other taken →
            branchOrder branch other = .lt) ∧
          branchInto resource path buffer = (some branch, found.toList) := by
  rw [branchInto, Uri.Search.findInto_eq]
  cases result : branchSearch.find? path (branches resource) with
  | none =>
      refine .inl ⟨fun branch present found takes => ?_, rfl⟩
      exact takes.admitted?_ne_none (Uri.Search.find?_eq_none_iff.mp result branch present)
  | some entry =>
      obtain ⟨branch, found⟩ := entry
      obtain ⟨earlier, later, parted, admits, least, leads⟩ :=
        Uri.Search.first_of_find? (fun _ _ => better_branchSearch_iff) result
      refine .inr ⟨earlier, branch, later, found, parted, (admitted?_branchSearch_iff.mp admits).2,
        fun other present taken takes => ?_, fun other before taken takes => ?_, rfl⟩
      · rw [Ne, ← better_branchSearch_iff, least other present takes.admitted?_ne_none]
        decide
      · exact better_branchSearch_iff.mp (leads other before takes.admitted?_ne_none)

/-- Two branches that lead to the same place, with what they match. -/
inductive BranchesAgree : Branch σ × Uri.PathMatch → Branch σ × Uri.PathMatch → Prop
  /-- Operations have the same pattern. -/
  | operation
      {sub other : SubOperation σ}
      (same : other.pattern = sub.pattern)
      (found : Uri.PathMatch) :
      BranchesAgree (.operation sub, found) (.operation other, found)
  /-- Locators are the same. -/
  | locator (sub : Locator σ) (found : Uri.PathMatch) :
      BranchesAgree (.locator sub, found) (.locator sub, found)

/-- Branches of an unambiguous resource that match and are of equal rank lead to the same place. -/
theorem branchesAgree_of_branchOrder
    {resource : Resource σ}
    {path : Text}
    {branch other : Branch σ}
    {found otherFound : Uri.PathMatch}
    (unambiguous : resource.IsUnambiguous)
    (present : branch ∈ branches resource)
    (otherPresent : other ∈ branches resource)
    (matched : branch.pattern.match? path = some found)
    (otherMatched : other.pattern.match? path = some otherFound)
    (equalRank : branchOrder other branch = .eq) :
    BranchesAgree (branch, found) (other, otherFound) := by
  rw [branchOrder, compareLex_eq_eq] at equalRank
  obtain ⟨patterns, kinds⟩ := equalRank
  cases branch with
  | operation sub =>
      cases other with
      | operation otherSub =>
          have member := mem_subOperations_of_branch present
          have otherMember := mem_subOperations_of_branch otherPresent
          have compiled := unambiguous.compiled.subOperations sub member
          have otherCompiled := unambiguous.compiled.subOperations otherSub otherMember
          have text := unambiguous.subOperations otherSub otherMember sub member
            (otherCompiled.same_of_order_eq_eq compiled patterns)
          have same : otherSub.pattern = sub.pattern := by
            have again := otherCompiled.compile_text
            rw [text, compiled.compile_text] at again
            exact (Except.ok.inj again).symm
          -- Of one template there is one pattern, so both operations match the same.
          have equal : otherFound = found := by
            rw [Branch.pattern, same] at otherMatched
            exact Option.some.inj (otherMatched.symm.trans matched)
          rw [equal]
          exact .operation same found
      | locator => cases kinds
  | locator sub =>
      cases other with
      | operation => cases kinds
      | locator otherSub =>
          have member := mem_locators_of_branch present
          have otherMember := mem_locators_of_branch otherPresent
          have same := (unambiguous.compiled.locators otherSub otherMember).same_of_order_eq_eq
            (unambiguous.compiled.locators sub member) patterns
          have symmetric : Std.Symm fun first second : Locator σ =>
              first.pattern.same second.pattern = false :=
            ⟨fun _ _ differ => by simpa [Uri.Pattern.same, eq_comm] using differ⟩
          -- Different locators have different patterns.
          have equal : otherSub = sub := by
            by_contra different
            have differ := unambiguous.locators.forall otherMember member different
            simp [same] at differ
          subst equal
          obtain rfl := Option.some.inj (otherMatched.symm.trans matched)
          exact .locator _ _

/-- The branches that are found for a path in rearranged resources lead to the same place. -/
theorem branch?_rearranged
    {first second : Resource σ}
    (rearranged : Rearranged first second)
    (rest : Text) :
    Option.Rel BranchesAgree (branch? first rest) (branch? second rest) := by
  cases rearranged with
  | refl =>
      cases branch? first rest with
      | none => exact .none
      | some entry =>
          obtain ⟨branch, found⟩ := entry
          cases branch with
          | operation sub => exact .some (.operation rfl found)
          | locator sub => exact .some (.locator sub found)
  | @permuted subOperations locators unambiguous subOperationsPermuted locatorsPermuted =>
      have permuted : (branches { first with subOperations, locators }).Perm (branches first) :=
        (subOperationsPermuted.map _).append (locatorsPermuted.map _)
      rw [branch?, branch?]
      cases result : branchSearch.find? rest (branches first) with
      | none =>
          rw [Uri.Search.find?_eq_none_iff.mpr fun branch present =>
            Uri.Search.find?_eq_none_iff.mp result branch (permuted.mem_iff.mp present)]
          exact .none
      | some entry =>
          obtain ⟨branch, found⟩ := entry
          obtain ⟨other, otherFound, otherResult, equalRank⟩ :=
            Uri.Search.exists_find?_perm (fun _ _ => better_branchSearch_iff) permuted result
          obtain ⟨present, matched, _⟩ := Uri.Search.of_find?_eq_some result
          obtain ⟨otherPresent, otherMatched, _⟩ := Uri.Search.of_find?_eq_some otherResult
          rw [otherResult]
          exact .some (branchesAgree_of_branchOrder unambiguous present
            (permuted.mem_iff.mp otherPresent) matched otherMatched equalRank)

/--
Two outcomes that are the same but for the order of declaration: the request is the same, and the
error is, or else the resource but for a rearrangement, the operations but for their order, and the
template.
-/
inductive OutcomesAgree : Outcome σ → Outcome σ → Prop
  /-- The error is the same. -/
  | failed (request : Request) (error : DispatchError) :
      OutcomesAgree (request, .error error) (request, .error error)
  /-- The same operations of the same resource are reached. -/
  | reached
      (request : Request)
      {first second : Target σ}
      (resource : Rearranged first.resource second.resource)
      (operations : second.operations.Perm first.operations)
      (template : second.template = first.template) :
      OutcomesAgree (request, .ok first) (request, .ok second)

theorem arrive_rearranged
    {first second : Resource σ}
    (rearranged : Rearranged first second)
    (template : Text)
    (request : Request) :
    OutcomesAgree (arrive first template request) (arrive second template request) := by
  rw [arrive, arrive, rearranged.operations]
  split
  · exact .failed _ _
  · exact .reached request rearranged (.refl _) rfl

/-- What a locator leads to is rearranged if all resources behind locators are. -/
theorem bind_rearranged
    {directory otherDirectory : Directory σ}
    (directories : ∀ key, Option.Rel Rearranged (directory key) (otherDirectory key))
    (key : Option Text) :
    Option.Rel Rearranged (key.bind directory) (key.bind otherDirectory) := by
  cases key with
  | none => exact .none
  | some key => exact directories key

/-- A descent from rearranged resources through rearranged resources leads to the same place. -/
theorem descend_rearranged
    {directory otherDirectory : Directory σ}
    (directories : ∀ key, Option.Rel Rearranged (directory key) (otherDirectory key))
    (decode : Bool)
    (state : σ)
    (limit : Nat)
    {first second : Resource σ}
    (rearranged : Rearranged first second)
    (template : Text)
    (remainder : Option Text)
    (request : Request) :
    Option.Rel OutcomesAgree
      (descend directory decode state limit first template remainder request)
      (descend otherDirectory decode state limit second template remainder request) := by
  -- Only a locator is followed further, and with a lower limit.
  induction limit using Nat.strongRecOn generalizing first second template remainder request with
  | ind limit ih =>
      rw [descend.eq_def, descend.eq_def otherDirectory]
      cases remainder with
      | none => exact .some (arrive_rearranged rearranged template request)
      | some rest =>
          by_cases terminal : Uri.PathMatch.isTerminal (some rest) = true
          · simp only [terminal, if_true]
            exact .some (arrive_rearranged rearranged template request)
          · simp only [terminal, Bool.false_eq_true, if_false]
            have agree := branch?_rearranged rearranged rest
            generalize branch? first rest = chosen at agree ⊢
            generalize branch? second rest = otherChosen at agree ⊢
            cases agree with
            | none => exact .some (.failed _ _)
            | some entries =>
                cases entries with
                | @operation sub other same found =>
                    simp only [same]
                    cases bind decode sub.pattern found request with
                    | mk bound failure =>
                        cases failure with
                        | some error => exact .some (.failed _ _)
                        | none =>
                            exact .some (.reached _ rearranged (rearranged.operationsOf _) rfl)
                | locator sub found =>
                    simp only
                    cases bind decode sub.pattern found request with
                    | mk bound failure =>
                        cases failure with
                        | some error => exact .some (.failed _ _)
                        | none =>
                            have located :=
                              bind_rearranged directories (sub.locate bound state)
                            simp only
                            generalize (sub.locate bound state).bind directory = next
                              at located ⊢
                            generalize (sub.locate bound state).bind otherDirectory = otherNext
                              at located ⊢
                            cases located with
                            | none => exact .some (.failed _ _)
                            | some further =>
                                cases limit with
                                | zero => exact .none
                                | succ less => exact ih less (Nat.lt_succ_self less) further _ _ _

/-- A search for rearranged root resources finds the same one. -/
theorem root?_rearranged
    {resources others : List (Resource σ)}
    (rearranged : List.Forall₂ Rearranged resources others)
    (path : Text) :
    Option.Rel (fun entry other => Rearranged entry.1 other.1 ∧ entry.2 = other.2)
      (root? resources path) (root? others path) := by
  have admits : ∀ {resource other : Resource σ}, Rearranged resource other →
      rootSearch.admits resource = rootSearch.admits other := by
    intro resource other relation
    funext remainder
    simp only [rootSearch, relation.hasSubResources]
  refine Uri.Search.rel_find? (fun relation => relation.pattern.symm) admits ?_ path rearranged
  intro next nextOther held heldOther nextRelation heldRelation
  simp only [rootSearch, nextRelation.pattern, heldRelation.pattern]

/--
Of the branches that take a path the least one is found, and the first of equals.  So resources
whose members are rearranged, as root resources or behind locators, lead a request to the same
place with the same path parameters, or to the same error.
-/
theorem resolve?_rearranged
    {resources others : List (Resource σ)}
    {directory otherDirectory : Directory σ}
    (rearranged : List.Forall₂ Rearranged resources others)
    (directories : ∀ key, Option.Rel Rearranged (directory key) (otherDirectory key)) :
    (∀ (resource : Resource σ) (path : Text) (buffer : List (Option Text)),
        ((∀ branch ∈ branches resource, ∀ found, ¬Takes path branch found) ∧
            branchInto resource path buffer = (none, buffer)) ∨
          ∃ earlier branch later found,
            branches resource = earlier ++ branch :: later ∧ Takes path branch found ∧
              (∀ other ∈ branches resource, ∀ taken, Takes path other taken →
                branchOrder other branch ≠ .lt) ∧
              (∀ other ∈ earlier, ∀ taken, Takes path other taken →
                branchOrder branch other = .lt) ∧
              branchInto resource path buffer = (some branch, found.toList)) ∧
      ∀ (decode : Bool) (state : σ) (limit : Nat) (request : Request),
        Option.Rel OutcomesAgree
          (resolve? resources directory decode state limit request)
          (resolve? others otherDirectory decode state limit request) := by
  refine ⟨branchInto_cases, fun decode state limit request => ?_⟩
  have agree := root?_rearranged rearranged request.path
  rw [resolve?, resolve?]
  generalize root? resources request.path = chosen at agree ⊢
  generalize root? others request.path = otherChosen at agree ⊢
  cases agree with
  | none => exact .some (.failed _ _)
  | @some entry other relation =>
      obtain ⟨resource, found⟩ := entry
      obtain ⟨otherResource, otherFound⟩ := other
      obtain ⟨alike, same⟩ := relation
      dsimp only at alike same
      subst same
      simp only [alike.pattern]
      cases bind decode resource.pattern found request with
      | mk bound failure =>
          cases failure with
          | some error => exact .some (.failed _ _)
          | none => exact descend_rearranged directories decode state limit alike _ _ _

/-- Two operations of one template and two locators change places. -/
theorem resolve?_rearranged_swapped :
    ∃ first second : Resource Unit,
      Rearranged first second ∧
        first.subOperations.map (·.operation.method) = [.get, .put] ∧
        second.subOperations.map (·.operation.method) = [.put, .get] ∧
        first.locators = second.locators.reverse ∧
        ∀ request, Option.Rel OutcomesAgree
          (resolve? [first] (fun _ => none) true () 0 request)
          (resolve? [second] (fun _ => none) true () 0 request) := by
  obtain ⟨own, _⟩ := @Uri.Pattern.exists_compile "/books".toList (by decide +kernel)
  obtain ⟨below, belowCompiled⟩ :=
    @Uri.Pattern.exists_compile "/\x7bid\x7d".toList (by decide +kernel)
  obtain ⟨notes, notesCompiled⟩ := @Uri.Pattern.exists_compile "/notes".toList (by decide +kernel)
  obtain ⟨tags, tagsCompiled⟩ := @Uri.Pattern.exists_compile "/tags".toList (by decide +kernel)
  have notesExpression : notes.expression = "/notes(/.*)?".toList :=
    Uri.Pattern.view_eq_of_compile notesCompiled (·.expression) (by decide +kernel)
  have tagsExpression : tags.expression = "/tags(/.*)?".toList :=
    Uri.Pattern.view_eq_of_compile tagsCompiled (·.expression) (by decide +kernel)
  let handler : Handler Unit := fun _ state => (.error (.notFound []), state)
  let get : SubOperation Unit := ⟨below, ⟨.get, [], [], handler⟩⟩
  let put : SubOperation Unit := ⟨below, ⟨.put, [], [], handler⟩⟩
  let notesLocator : Locator Unit := ⟨notes, fun _ _ => none⟩
  let tagsLocator : Locator Unit := ⟨tags, fun _ _ => none⟩
  have unambiguous :
      (⟨[], own, [], [get, put], [notesLocator, tagsLocator]⟩ : Resource Unit).IsUnambiguous := by
    refine ⟨⟨?_, ?_⟩, ?_, ?_⟩
    · simpa [get, put] using ⟨_, belowCompiled⟩
    · simpa [notesLocator, tagsLocator] using
        ⟨(⟨_, notesCompiled⟩ : notes.IsCompiled), (⟨_, tagsCompiled⟩ : tags.IsCompiled)⟩
    · simp [notesLocator, tagsLocator, Uri.Pattern.same, notesExpression, tagsExpression]
    · simp [get, put]
  have rearranged : Rearranged (⟨[], own, [], [get, put], [notesLocator, tagsLocator]⟩)
      ⟨[], own, [], [put, get], [tagsLocator, notesLocator]⟩ :=
    .permuted unambiguous (.swap _ _ _) (.swap _ _ _)
  exact ⟨_, _, rearranged, rfl, rfl, rfl, fun request =>
    (resolve?_rearranged (.cons rearranged .nil) fun _ => .none).2 true () 0 request⟩

end Resolution
end ResourceRouting
