import Mathlib.Data.List.Forall2
import ResourceRouting.Proofs.Choice
import ResourceRouting.Uri.Search

/-!
# What a search finds

A search finds the first best of the members that match a path with an admitted remainder,
together with what that member itself matches.  Nothing that another member has written to the
buffer is left in the result.
-/

namespace ResourceRouting
namespace Uri
namespace Search

variable {α : Type}

/-- A member with what it matches of a path, if it may leave the remainder. -/
def admitted? (search : Search α) (path : Text) (member : α) : Option (α × PathMatch) :=
  ((search.pattern member).match? path).bind fun found =>
    if search.admits member found.remainder then some (member, found) else none

/-- A member is admitted with what its pattern matches, provided it may leave the remainder. -/
theorem admitted?_eq_some_iff
    {search : Search α}
    {path : Text}
    {member : α}
    {entry : α × PathMatch} :
    search.admitted? path member = some entry ↔
      entry.1 = member ∧ (search.pattern member).match? path = some entry.2 ∧
        search.admits member entry.2.remainder = true := by
  obtain ⟨other, found⟩ := entry
  cases matched : (search.pattern member).match? path with
  | none => simp [admitted?, matched]
  | some result =>
      by_cases admits : search.admits member result.remainder = true
      · simp only [admitted?, matched, Option.bind_some, admits, if_true, Option.some.injEq,
          Prod.mk.injEq]
        constructor
        · rintro ⟨rfl, rfl⟩
          exact ⟨rfl, rfl, admits⟩
        · rintro ⟨rfl, rfl, _⟩
          exact ⟨rfl, rfl⟩
      · simp only [admitted?, matched, Option.bind_some, admits, Option.some.injEq]
        constructor
        · intro impossible
          cases impossible
        · rintro ⟨_, rfl, admitted⟩
          exact absurd admitted admits

/-- The admitted members of a list in order. -/
def admitted (search : Search α) (path : Text) (list : List α) : List (α × PathMatch) :=
  list.filterMap (search.admitted? path)

/-- An entry of the admitted members is a member of the list with what it matches. -/
theorem mem_admitted_iff
    {search : Search α}
    {path : Text}
    {list : List α}
    {entry : α × PathMatch} :
    entry ∈ search.admitted path list ↔
      entry.1 ∈ list ∧ (search.pattern entry.1).match? path = some entry.2 ∧
        search.admits entry.1 entry.2.remainder = true := by
  simp only [admitted, List.mem_filterMap, admitted?_eq_some_iff]
  constructor
  · rintro ⟨member, inList, rfl, matched⟩
    exact ⟨inList, matched⟩
  · rintro ⟨inList, matched⟩
    exact ⟨entry.1, inList, rfl, matched⟩

/-- Whether an entry is preferred to the one that is held. -/
def betterEntry (search : Search α) (next held : α × PathMatch) : Bool :=
  search.better next.1 held.1

/-- An entry with its match written out. -/
def written (entry : α × PathMatch) : α × List (Option Text) :=
  (entry.1, entry.2.toList)

/-- The choice from a list when an entry may be held already. -/
def resume
    (search : Search α)
    (held : Option (α × PathMatch))
    (list : List (α × PathMatch)) :
    Option (α × PathMatch) :=
  match held with
  | none => Choice.firstBest search.betterEntry list
  | some entry => some (list.foldl (Choice.prefer search.betterEntry) entry)

/-- What is held after one more entry. -/
def hold
    (search : Search α)
    (held : Option (α × PathMatch))
    (next : α × PathMatch) :
    α × PathMatch :=
  match held with
  | none => next
  | some entry => Choice.prefer search.betterEntry entry next

@[simp]
theorem resume_nil (search : Search α) (held : Option (α × PathMatch)) :
    search.resume held [] = held := by
  cases held <;> rfl

@[simp]
theorem resume_cons
    (search : Search α)
    (held : Option (α × PathMatch))
    (next : α × PathMatch)
    (list : List (α × PathMatch)) :
    search.resume held (next :: list) = search.resume (some (search.hold held next)) list := by
  cases held <;> rfl

/-- Looking at a member keeps what is held unless the member is admitted and better. -/
theorem best_step
    (search : Search α)
    (path : Text)
    {state : State α}
    {held : Option (α × PathMatch)}
    (holds : state.best = held.map written)
    (member : α) :
    (search.step path state member).best =
      match search.admitted? path member with
      | none => held.map written
      | some next => some (written (search.hold held next)) := by
  cases matched : (search.pattern member).match? path with
  | none => simp [step, Pattern.matchInto, admitted?, matched, holds]
  | some found =>
      by_cases admits : search.admits member found.remainder = true
      · cases held with
        | none =>
            simp [step, replaces, Pattern.matchInto, admitted?, matched, holds, admits, hold,
              written]
        | some entry =>
            cases better : search.better member entry.1 <;>
              simp [step, replaces, Pattern.matchInto, admitted?, matched, holds, admits, hold,
                written, Choice.prefer, betterEntry, better]
      · cases held <;>
          simp [step, replaces, Pattern.matchInto, admitted?, matched, holds, admits, written]

/-- The members that are still to come decide between what is held and the best of them. -/
theorem best_foldl_step
    (search : Search α)
    (path : Text)
    (list : List α)
    {state : State α}
    {held : Option (α × PathMatch)}
    (holds : state.best = held.map written) :
    (list.foldl (search.step path) state).best =
      (search.resume held (search.admitted path list)).map written := by
  induction list generalizing state held with
  | nil => simp [admitted, holds]
  | cons member rest ih =>
      have next := best_step search path holds member
      rw [List.foldl_cons]
      cases entry : search.admitted? path member with
      | none =>
          rw [entry] at next
          rw [ih next, admitted, admitted, List.filterMap_cons_none entry]
      | some found =>
          rw [entry] at next
          have holdsNext :
              (search.step path state member).best =
                (some (search.hold held found)).map written := next
          rw [ih holdsNext, admitted, admitted, List.filterMap_cons_some entry, resume_cons]

/-- A search runs to the first best of the admitted members. -/
theorem run_eq (search : Search α) (path : Text) (list : List α) :
    search.run path list =
      (Choice.firstBest search.betterEntry (search.admitted path list)).map written := by
  have holds : (start : State α).best = (none : Option (α × PathMatch)).map written := rfl
  exact best_foldl_step search path list holds

theorem find?_eq (search : Search α) (path : Text) (list : List α) :
    search.find? path list =
      Choice.firstBest search.betterEntry (search.admitted path list) := by
  rw [find?, run_eq, Option.map_map]
  have readBack : (fun entry : α × List (Option Text) => (entry.1, PathMatch.ofList entry.2)) ∘
      written = id := by
    funext entry
    simp [written]
  simp only [readBack, Option.map_id_fun, id_eq]

/-- What is left in a buffer after a search: the match of the member that was found. -/
theorem findInto_eq
    (search : Search α)
    (path : Text)
    (list : List α)
    (buffer : List (Option Text)) :
    search.findInto path list buffer =
      match search.find? path list with
      | none => (none, buffer)
      | some (member, found) => (some member, found.toList) := by
  rw [findInto, find?_eq, run_eq]
  cases Choice.firstBest search.betterEntry (search.admitted path list) <;> rfl

/-- What is found stands in the list, matches the path and may leave the remainder. -/
theorem of_find?_eq_some
    {search : Search α}
    {path : Text}
    {list : List α}
    {member : α}
    {found : PathMatch}
    (result : search.find? path list = some (member, found)) :
    member ∈ list ∧ (search.pattern member).match? path = some found ∧
      search.admits member found.remainder = true := by
  rw [find?_eq] at result
  exact mem_admitted_iff.mp (Choice.firstBest_mem result)

/-- Nothing is found exactly if no member of the list is admitted. -/
theorem find?_eq_none_iff {search : Search α} {path : Text} {list : List α} :
    search.find? path list = none ↔ ∀ member ∈ list, search.admitted? path member = none := by
  rw [find?_eq, Choice.firstBest_eq_none_iff, admitted, List.filterMap_eq_nil_iff]

section Comparison

variable {search : Search α} {compare : α → α → Ordering} [Std.TransCmp compare]

private theorem transCmp_fst :
    Std.TransCmp fun first second : α × PathMatch => compare first.1 second.1 where
  eq_swap := Std.OrientedCmp.eq_swap
  isLE_trans := Std.TransCmp.isLE_trans

/--
What is found has an admitted match, no admitted member of the list is better, and it is better
than the admitted members that stand before it.
-/
theorem first_of_find?
    (agree : ∀ first second, search.better first second = true ↔ compare first second = .lt)
    {path : Text}
    {list : List α}
    {member : α}
    {found : PathMatch}
    (result : search.find? path list = some (member, found)) :
    ∃ earlier later,
      list = earlier ++ member :: later ∧
        search.admitted? path member = some (member, found) ∧
        (∀ other ∈ list, search.admitted? path other ≠ none →
          search.better other member = false) ∧
        ∀ other ∈ earlier, search.admitted? path other ≠ none →
          search.better member other = true := by
  have transitive : Std.TransCmp fun first second : α × PathMatch =>
      compare first.1 second.1 := transCmp_fst
  have agreeEntries : ∀ first second : α × PathMatch,
      search.betterEntry first second = true ↔ compare first.1 second.1 = .lt :=
    fun first second => agree first.1 second.1
  rw [find?_eq] at result
  obtain ⟨earlier, chosen, later, parted, admits, least, leads⟩ :=
    Choice.isFirstBest_filterMap_iff.mp (Choice.isFirstBest_of_firstBest agreeEntries result)
  obtain ⟨rfl, _, _⟩ := admitted?_eq_some_iff.mp admits
  refine ⟨earlier, later, parted, admits, ?_, ?_⟩
  · intro other present some
    obtain ⟨entry, entryOf⟩ := Option.ne_none_iff_exists'.mp some
    obtain ⟨rfl, _, _⟩ := admitted?_eq_some_iff.mp entryOf
    exact least _ present entry entryOf
  · intro other present some
    obtain ⟨entry, entryOf⟩ := Option.ne_none_iff_exists'.mp some
    obtain ⟨rfl, _, _⟩ := admitted?_eq_some_iff.mp entryOf
    exact leads _ present entry entryOf

/-- An admitted member that is better than all other admitted ones is found. -/
theorem find?_eq_some_of_better
    (agree : ∀ first second, search.better first second = true ↔ compare first second = .lt)
    {path : Text}
    {list : List α}
    {member : α}
    {found : PathMatch}
    (present : member ∈ list)
    (admits : search.admitted? path member = some (member, found))
    (others : ∀ other ∈ list, search.admitted? path other ≠ none →
      other = member ∨ search.better member other = true) :
    search.find? path list = some (member, found) := by
  have admitted : search.admitted? path member ≠ none := by simp [admits]
  cases result : search.find? path list with
  | none => exact absurd (find?_eq_none_iff.mp result member present) admitted
  | some entry =>
      obtain ⟨chosen, chosenMatch⟩ := entry
      obtain ⟨earlier, later, parted, chosenAdmits, least, _⟩ := first_of_find? agree result
      have chosenPresent : chosen ∈ list := by simp [parted]
      rcases others chosen chosenPresent (by simp [chosenAdmits]) with rfl | before
      · rw [← admits, chosenAdmits]
      · rw [least member present admitted] at before
        cases before

/-- What is found in a permutation of a list is of the same rank. -/
theorem exists_find?_perm
    (agree : ∀ first second, search.better first second = true ↔ compare first second = .lt)
    {path : Text}
    {list permuted : List α}
    (permutation : permuted.Perm list)
    {member : α}
    {found : PathMatch}
    (result : search.find? path list = some (member, found)) :
    ∃ other otherFound, search.find? path permuted = some (other, otherFound) ∧
      compare other member = .eq := by
  have transitive : Std.TransCmp fun first second : α × PathMatch =>
      compare first.1 second.1 := transCmp_fst
  have agreeEntries : ∀ first second : α × PathMatch,
      search.betterEntry first second = true ↔ compare first.1 second.1 = .lt :=
    fun first second => agree first.1 second.1
  rw [find?_eq] at result ⊢
  obtain ⟨⟨other, otherFound⟩, chosen, equalRank⟩ :=
    Choice.exists_firstBest_perm agreeEntries (permutation.filterMap _) result
  exact ⟨other, otherFound, chosen, equalRank⟩

/-- Where no two members are of equal rank, every permutation of a list has the same found. -/
theorem find?_perm
    (agree : ∀ first second, search.better first second = true ↔ compare first second = .lt)
    (path : Text)
    {list permuted : List α}
    (permutation : permuted.Perm list)
    (distinct : list.Pairwise fun first second => compare first second ≠ .eq) :
    search.find? path permuted = search.find? path list := by
  have transitive : Std.TransCmp fun first second : α × PathMatch =>
      compare first.1 second.1 := transCmp_fst
  have agreeEntries : ∀ first second : α × PathMatch,
      search.betterEntry first second = true ↔ compare first.1 second.1 = .lt :=
    fun first second => agree first.1 second.1
  rw [find?_eq, find?_eq]
  apply Choice.firstBest_perm agreeEntries (permutation.filterMap _)
  apply List.Pairwise.filterMap _ _ distinct
  intro first second differ entry entryOf other otherOf
  obtain ⟨rfl, _, _⟩ := admitted?_eq_some_iff.mp entryOf
  obtain ⟨rfl, _, _⟩ := admitted?_eq_some_iff.mp otherOf
  exact differ

end Comparison

/--
Members that stand for others, with the same patterns and remainders and preferred alike, are found
where the others are.
-/
theorem rel_find?
    {β : Type}
    {related : α → β → Prop}
    {search : Search α}
    {other : Search β}
    (patterns : ∀ {member image}, related member image →
      search.pattern member = other.pattern image)
    (admits : ∀ {member image}, related member image →
      search.admits member = other.admits image)
    (better : ∀ {next nextImage held heldImage}, related next nextImage → related held heldImage →
      search.better next held = other.better nextImage heldImage)
    (path : Text)
    {list : List α}
    {images : List β}
    (lists : List.Forall₂ related list images) :
    Option.Rel (fun entry image => related entry.1 image.1 ∧ entry.2 = image.2)
      (search.find? path list) (other.find? path images) := by
  let alike : α × PathMatch → β × PathMatch → Prop := fun entry image =>
    related entry.1 image.1 ∧ entry.2 = image.2
  have member : ∀ ⦃member image⦄, related member image →
      Option.Rel alike (search.admitted? path member) (other.admitted? path image) := by
    intro member image relation
    rw [admitted?, admitted?, patterns relation, admits relation]
    cases (other.pattern image).match? path with
    | none => exact .none
    | some found =>
        cases allowed : other.admits image found.remainder with
        | false => simp [allowed]
        | true => simpa [allowed] using Option.Rel.some ⟨relation, rfl⟩
  have step : ∀ ⦃held heldImage⦄, alike held heldImage → ∀ ⦃next nextImage⦄,
      alike next nextImage →
        alike (Choice.prefer search.betterEntry held next)
          (Choice.prefer other.betterEntry heldImage nextImage) := by
    intro held heldImage holds next nextImage follows
    rw [Choice.prefer, Choice.prefer, betterEntry, betterEntry, better follows.1 holds.1]
    split
    · exact follows
    · exact holds
  rw [find?_eq, find?_eq]
  have entries : List.Forall₂ alike (search.admitted path list) (other.admitted path images) :=
    List.rel_filterMap member lists
  generalize search.admitted path list = admitted at entries ⊢
  generalize other.admitted path images = admittedImages at entries ⊢
  cases entries with
  | nil => exact .none
  | cons first rest => exact .some (List.rel_foldl step first rest)

theorem find?_singleton (search : Search α) (path : Text) (member : α) :
    search.find? path [member] = search.admitted? path member := by
  rw [find?_eq, admitted]
  cases entry : search.admitted? path member with
  | none => rw [List.filterMap_cons_none entry, List.filterMap_nil, Choice.firstBest_nil]
  | some found =>
      rw [List.filterMap_cons_some entry, List.filterMap_nil, Choice.firstBest_cons,
        List.foldl_nil]

end Search
end Uri
end ResourceRouting
