import ResourceRouting.Proofs.Resource.Declared
import ResourceRouting.Proofs.Uri.Order
import ResourceRouting.Proofs.Uri.Search
import ResourceRouting.Resolution

/-!
# The choice of a root resource

The resource that is chosen for a path is the first of the least eligible ones, and the buffer
holds its own match.  Where all patterns differ, the order of the resources does not matter.
-/

namespace ResourceRouting
namespace Resolution

variable {σ : Type}

/-- A resource may answer a path: nothing of the path is left, or it goes on below the resource. -/
structure Eligible (path : Text) (resource : Resource σ) (found : Uri.PathMatch) : Prop where
  /-- The pattern matches the path. -/
  matched : resource.pattern.match? path = some found
  /-- The remainder is nothing, a single slash, or left to the members of the resource. -/
  continued :
    found.remainder = none ∨ found.remainder = some ['/'] ∨
      resource.subOperations ≠ [] ∨ resource.locators ≠ []

/-- The search for a root resource admits the eligible ones. -/
theorem admitted?_rootSearch_iff
    {path : Text}
    {resource : Resource σ}
    {entry : Resource σ × Uri.PathMatch} :
    rootSearch.admitted? path resource = some entry ↔
      entry.1 = resource ∧ Eligible path resource entry.2 := by
  have continues : (@rootSearch σ).admits resource entry.2.remainder = true ↔
      entry.2.remainder = none ∨ entry.2.remainder = some ['/'] ∨
        resource.subOperations ≠ [] ∨ resource.locators ≠ [] := by
    simp [rootSearch, Uri.PathMatch.isTerminal, Resource.hasSubResources, or_assoc]
  rw [Uri.Search.admitted?_eq_some_iff, continues]
  constructor
  · rintro ⟨same, matched, continued⟩
    exact ⟨same, matched, continued⟩
  · rintro ⟨same, matched, continued⟩
    exact ⟨same, matched, continued⟩

/-- A resource is not admitted exactly if it is not eligible with any match. -/
theorem admitted?_rootSearch_eq_none_iff {path : Text} {resource : Resource σ} :
    rootSearch.admitted? path resource = none ↔ ∀ found, ¬Eligible path resource found := by
  constructor
  · intro absent found eligible
    have entry := admitted?_rootSearch_iff.mpr
      (⟨rfl, eligible⟩ : (resource, found).1 = resource ∧ Eligible path resource found)
    rw [absent] at entry
    cases entry
  · intro ineligible
    cases entry : rootSearch.admitted? path resource with
    | none => rfl
    | some entry' => exact absurd (admitted?_rootSearch_iff.mp entry).2 (ineligible entry'.2)

/-- Roots are compared by the order of their patterns. -/
def rootOrder (first second : Resource σ) : Ordering :=
  first.pattern.order second.pattern

instance : Std.TransCmp (@rootOrder σ) where
  eq_swap := by
    intro first second
    unfold rootOrder
    exact Std.OrientedCmp.eq_swap
  isLE_trans := by
    intro first second third
    unfold rootOrder
    exact Std.TransCmp.isLE_trans

theorem better_rootSearch_iff {first second : Resource σ} :
    rootSearch.better first second = true ↔ rootOrder first second = .lt :=
  Uri.Pattern.precedes_iff

/-- Declared resources whose patterns differ are of different rank. -/
theorem rootOrder_ne_eq
    {first second : Resource σ}
    (firstDeclared : first.IsDeclared)
    (secondDeclared : second.IsDeclared)
    (differ : first.pattern.same second.pattern = false) :
    rootOrder first second ≠ .eq := by
  intro equal
  have unequal : first.pattern.expression ≠ second.pattern.expression := by
    simpa [Uri.Pattern.same] using differ
  rcases Uri.Pattern.order_eq_eq_iff.mp equal with
    ⟨firstEmpty, secondEmpty⟩ | ⟨_, _, _, _, expressions⟩
  · apply unequal
    rw [firstDeclared.compiled.1.eq_empty firstEmpty,
      secondDeclared.compiled.1.eq_empty secondEmpty]
  · exact unequal expressions

/--
The choice of a root resource.  Without an eligible resource there is none, and the buffer stays.
Otherwise it is the first of those eligible resources that no eligible one precedes, and the
buffer holds what its own pattern matches.  The order of resources whose patterns differ does not
matter.
-/
theorem rootInto_first_least
    (resources : List (Resource σ))
    (path : Text)
    (buffer : List (Option Text)) :
    ((∀ resource ∈ resources, ∀ found, ¬Eligible path resource found) →
      rootInto resources path buffer = (none, buffer)) ∧
    ((∃ resource ∈ resources, ∃ found, Eligible path resource found) →
      ∃ earlier resource later found,
        resources = earlier ++ resource :: later ∧
          Eligible path resource found ∧
          (∀ other ∈ resources, (∃ match', Eligible path other match') →
            other.pattern.precedes resource.pattern = false) ∧
          (∀ other ∈ earlier, (∃ match', Eligible path other match') →
            resource.pattern.precedes other.pattern = true) ∧
          rootInto resources path buffer = (some resource, found.toList)) ∧
    ((∀ resource ∈ resources, resource.IsDeclared) →
      resources.Pairwise (fun first second => first.pattern.same second.pattern = false) →
      ∀ permuted : List (Resource σ), permuted.Perm resources →
        rootInto permuted path buffer = rootInto resources path buffer) := by
  refine ⟨?_, ?_, ?_⟩
  · intro ineligible
    have absent : rootSearch.find? path resources = none :=
      Uri.Search.find?_eq_none_iff.mpr fun resource present =>
        admitted?_rootSearch_eq_none_iff.mpr (ineligible resource present)
    rw [rootInto, Uri.Search.findInto_eq, absent]
  · rintro ⟨resource, present, found, eligible⟩
    cases result : rootSearch.find? path resources with
    | none =>
        have none := Uri.Search.find?_eq_none_iff.mp result resource present
        exact absurd eligible (admitted?_rootSearch_eq_none_iff.mp none found)
    | some entry =>
        obtain ⟨chosen, chosenMatch⟩ := entry
        obtain ⟨earlier, later, parted, admits, least, leads⟩ :=
          Uri.Search.first_of_find? (fun _ _ => better_rootSearch_iff) result
        have admitted : ∀ other, (∃ match', Eligible path other match') →
            (@rootSearch σ).admitted? path other ≠ none := by
          rintro other ⟨match', otherEligible⟩ none
          exact admitted?_rootSearch_eq_none_iff.mp none match' otherEligible
        refine ⟨earlier, chosen, later, chosenMatch, parted,
          (admitted?_rootSearch_iff.mp admits).2, ?_, ?_, ?_⟩
        · exact fun other inList otherEligible => least other inList (admitted other otherEligible)
        · exact fun other before otherEligible => leads other before (admitted other otherEligible)
        · rw [rootInto, Uri.Search.findInto_eq, result]
  · intro declared distinct permuted permutation
    have ranks : resources.Pairwise fun first second => rootOrder first second ≠ .eq :=
      distinct.imp_of_mem fun firstIn secondIn differ =>
        rootOrder_ne_eq (declared _ firstIn) (declared _ secondIn) differ
    rw [rootInto, rootInto, Uri.Search.findInto_eq, Uri.Search.findInto_eq,
      Uri.Search.find?_perm (fun _ _ => better_rootSearch_iff) path permutation ranks]

/-- A literal template is chosen before a variable one, wherever the two stand in the list. -/
theorem rootInto_first_least_literal :
    ∃ named literal : Resource Unit,
      (∀ resource ∈ [named, literal], resource.IsDeclared) ∧
        [named, literal].Pairwise
          (fun first second => first.pattern.same second.pattern = false) ∧
        (∀ resource ∈ [named, literal], ∀ found, ¬Eligible "/c".toList resource found) ∧
        Eligible "/a/b".toList named ⟨[some ['b']], none⟩ ∧
        Eligible "/a/b".toList literal ⟨[], none⟩ ∧
        rootInto [named, literal] "/c".toList [none] = (none, [none]) ∧
        rootInto [named, literal] "/a/b".toList [] = (some literal, [none]) ∧
        rootInto [literal, named] "/a/b".toList [] = (some literal, [none]) := by
  obtain ⟨named, namedDeclared, namedPattern, namedSubs, namedLocators⟩ :=
    Resource.exists_isDeclared (σ := Unit) (by decide +kernel :
      (Uri.Pattern.compile "/a/{x}".toList).toBool = true)
  obtain ⟨literal, literalDeclared, literalPattern, literalSubs, literalLocators⟩ :=
    Resource.exists_isDeclared (σ := Unit) (by decide +kernel :
      (Uri.Pattern.compile "/a/b".toList).toBool = true)
  have namedOther : named.pattern.match? "/c".toList = none :=
    Uri.Pattern.view_eq_of_compile namedPattern (·.match? "/c".toList) (by decide +kernel)
  have literalOther : literal.pattern.match? "/c".toList = none :=
    Uri.Pattern.view_eq_of_compile literalPattern (·.match? "/c".toList) (by decide +kernel)
  have namedMatch : named.pattern.match? "/a/b".toList = some ⟨[some ['b']], none⟩ :=
    Uri.Pattern.view_eq_of_compile namedPattern (·.match? "/a/b".toList) (by decide +kernel)
  have literalMatch : literal.pattern.match? "/a/b".toList = some ⟨[], none⟩ :=
    Uri.Pattern.view_eq_of_compile literalPattern (·.match? "/a/b".toList) (by decide +kernel)
  have namedExpression : named.pattern.expression = "/a/([^/]+)(/.*)?".toList :=
    Uri.Pattern.view_eq_of_compile namedPattern (·.expression) (by decide +kernel)
  have literalExpression : literal.pattern.expression = "/a/b(/.*)?".toList :=
    Uri.Pattern.view_eq_of_compile literalPattern (·.expression) (by decide +kernel)
  have namedRank : named.pattern.rank = ⟨false, 3, 1, "/a/([^/]+)(/.*)?".toList⟩ :=
    Uri.Pattern.view_eq_of_compile namedPattern (·.rank) (by decide +kernel)
  have literalRank : literal.pattern.rank = ⟨false, 4, 0, "/a/b(/.*)?".toList⟩ :=
    Uri.Pattern.view_eq_of_compile literalPattern (·.rank) (by decide +kernel)
  have literalFirst : literal.pattern.precedes named.pattern = true := by
    rw [Uri.Pattern.precedes_iff, Uri.Pattern.order_eq_rankOrder, namedRank, literalRank]
    decide
  have namedEligible : Eligible "/a/b".toList named ⟨[some ['b']], none⟩ := ⟨namedMatch, .inl rfl⟩
  have literalEligible : Eligible "/a/b".toList literal ⟨[], none⟩ := ⟨literalMatch, .inl rfl⟩
  have declared : ∀ resource ∈ [named, literal], resource.IsDeclared := by
    simp [namedDeclared, literalDeclared]
  have distinct : [named, literal].Pairwise
      (fun first second => first.pattern.same second.pattern = false) := by
    simp [Uri.Pattern.same, namedExpression, literalExpression]
  have ineligible : ∀ resource ∈ [named, literal], ∀ found,
      ¬Eligible "/c".toList resource found := by
    intro resource present found eligible
    have matched := eligible.matched
    simp only [List.mem_cons, List.not_mem_nil, or_false] at present
    rcases present with rfl | rfl
    · rw [namedOther] at matched
      cases matched
    · rw [literalOther] at matched
      cases matched
  have found : rootInto [named, literal] "/a/b".toList [] = (some literal, [none]) := by
    obtain ⟨earlier, chosen, later, found, parted, eligible, least, leads, result⟩ :=
      (rootInto_first_least [named, literal] "/a/b".toList []).2.1
        ⟨literal, by simp, ⟨[], none⟩, literalEligible⟩
    have present : chosen ∈ [named, literal] := by
      rw [parted]
      simp
    simp only [List.mem_cons, List.not_mem_nil, or_false] at present
    rcases present with rfl | rfl
    · have notFirst := least literal (by simp) ⟨_, literalEligible⟩
      rw [literalFirst] at notFirst
      cases notFirst
    · have matched := eligible.matched
      rw [literalMatch, Option.some.injEq] at matched
      rw [result, ← matched]
      rfl
  refine ⟨named, literal, declared, distinct, ineligible, namedEligible, literalEligible,
    (rootInto_first_least [named, literal] "/c".toList [none]).1 ineligible, found, ?_⟩
  have permuted := (rootInto_first_least [named, literal] "/a/b".toList []).2.2 declared distinct
    [literal, named] (List.Perm.swap _ _ _)
  rw [permuted, found]

end Resolution
end ResourceRouting
