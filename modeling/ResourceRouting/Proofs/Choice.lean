import Mathlib.Data.List.Pairwise
import ResourceRouting.Choice

/-!
# The first of the best

What is chosen by a comparison that is a total preorder: no member comes before it, and it comes
before every member that stands earlier in the list.  Where no two members are of equal rank, the
choice does not depend on the order of the list.
-/

namespace ResourceRouting
namespace Choice

variable {α : Type}

/-- `chosen` is the first of the best members of a list. -/
def IsFirstBest (better : α → α → Bool) (list : List α) (chosen : α) : Prop :=
  ∃ earlier later,
    list = earlier ++ chosen :: later ∧
      (∀ other ∈ list, better other chosen = false) ∧
      ∀ other ∈ earlier, better chosen other = true

/-- What is chosen stands in the list. -/
theorem IsFirstBest.mem
    {better : α → α → Bool}
    {list : List α}
    {chosen : α}
    (best : IsFirstBest better list chosen) :
    chosen ∈ list := by
  obtain ⟨earlier, later, rfl, _, _⟩ := best
  simp

/-- There is one first best member at most. -/
theorem IsFirstBest.unique
    {better : α → α → Bool}
    {list : List α}
    {first second : α}
    (firstBest : IsFirstBest better list first)
    (secondBest : IsFirstBest better list second) :
    first = second := by
  -- Whichever of the two stands before the other is better and is not better than the other.
  have before : ∀ {front back others behind : List α} {first second next : α},
      first :: front = (next :: others) ++ second :: behind →
        (∀ other ∈ back ++ first :: front, better other first = false) →
          (∀ other ∈ back ++ next :: others, better second other = true) → False := by
    intro front back others behind first second next same least leads
    have present : second ∈ back ++ first :: front := by simp [same]
    injection same with next' _
    have refused := least second present
    rw [leads first (by simp [next'])] at refused
    cases refused
  obtain ⟨earlier, later, parted, least, leads⟩ := firstBest
  obtain ⟨earlier', later', parted', least', leads'⟩ := secondBest
  rcases List.append_eq_append_iff.mp (parted.symm.trans parted') with
    ⟨more, rfl, same⟩ | ⟨more, rfl, same⟩
  · cases more with
    | nil => exact (List.cons.inj same).1
    | cons next others => exact (before same (parted ▸ least) leads').elim
  · cases more with
    | nil => exact (List.cons.inj same).1.symm
    | cons next others => exact (before same (parted' ▸ least') leads).elim

/--
The first best of what some members stand for is that of a member; what no member before it stands
for is as good.
-/
theorem isFirstBest_filterMap_iff
    {β : Type}
    {better : β → β → Bool}
    {image? : α → Option β}
    {list : List α}
    {chosen : β} :
    IsFirstBest better (list.filterMap image?) chosen ↔
      ∃ earlier member later,
        list = earlier ++ member :: later ∧ image? member = some chosen ∧
          (∀ other ∈ list, ∀ entry, image? other = some entry → better entry chosen = false) ∧
          ∀ other ∈ earlier, ∀ entry, image? other = some entry → better chosen entry = true := by
  constructor
  · rintro ⟨entriesBefore, entriesAfter, parted, least, leads⟩
    obtain ⟨front, back, rfl, frontEntries, backEntries⟩ :=
      List.filterMap_eq_append_iff.mp parted
    obtain ⟨skipped, member, later, rfl, passed, found, _⟩ :=
      List.filterMap_eq_cons_iff.mp backEntries
    refine ⟨front ++ skipped, member, later, by simp, found, ?_, ?_⟩
    · exact fun other present entry entryOf =>
        least entry (List.mem_filterMap.mpr ⟨other, present, entryOf⟩)
    · intro other present entry entryOf
      rcases List.mem_append.mp present with inFront | inSkipped
      · apply leads entry
        rw [← frontEntries]
        exact List.mem_filterMap.mpr ⟨other, inFront, entryOf⟩
      · rw [passed other inSkipped] at entryOf
        cases entryOf
  · rintro ⟨earlier, member, later, rfl, found, least, leads⟩
    refine ⟨earlier.filterMap image?, later.filterMap image?, ?_, ?_, ?_⟩
    · rw [List.filterMap_append, List.filterMap_cons_some found]
    · intro entry present
      obtain ⟨other, inList, entryOf⟩ := List.mem_filterMap.mp present
      exact least other inList entry entryOf
    · intro entry present
      obtain ⟨other, before, entryOf⟩ := List.mem_filterMap.mp present
      exact leads other before entry entryOf

/-- What stands before and behind a member of joined lists is parted within one of the lists. -/
private theorem exists_parts_of_flatMap_eq
    {β : Type}
    {image : α → List β}
    {list : List α}
    {earlier later : List β}
    {chosen : β}
    (parted : list.flatMap image = earlier ++ chosen :: later) :
    ∃ before member after front back,
      list = before ++ member :: after ∧ image member = front ++ chosen :: back ∧
        earlier = before.flatMap image ++ front := by
  induction list generalizing earlier with
  | nil => simp at parted
  | cons member rest ih =>
      rw [List.flatMap_cons, List.append_eq_append_iff] at parted
      rcases parted with ⟨more, rfl, others⟩ | ⟨more, own, others⟩
      · obtain ⟨before, found, after, front, back, rfl, split, rfl⟩ := ih others
        exact ⟨member :: before, found, after, front, back, rfl, split, by simp⟩
      · cases more with
        | nil =>
            obtain ⟨before, found, after, front, back, rfl, split, none⟩ :=
              @ih [] others.symm
            refine ⟨member :: before, found, after, front, back, rfl, split, ?_⟩
            rw [List.flatMap_cons, List.append_assoc, ← none, own, List.append_nil, List.append_nil]
        | cons first more =>
            obtain ⟨rfl, -⟩ := List.cons.inj others
            exact ⟨[], member, rest, earlier, more, rfl, own, rfl⟩

/--
The first best of joined lists stands in one of them; what stands before it there, or in the lists
before, is not as good.
-/
theorem isFirstBest_flatMap_iff
    {β : Type}
    {better : β → β → Bool}
    {image : α → List β}
    {list : List α}
    {chosen : β} :
    IsFirstBest better (list.flatMap image) chosen ↔
      ∃ earlier member later front back,
        list = earlier ++ member :: later ∧ image member = front ++ chosen :: back ∧
          (∀ other ∈ list, ∀ entry ∈ image other, better entry chosen = false) ∧
          (∀ other ∈ earlier, ∀ entry ∈ image other, better chosen entry = true) ∧
          ∀ entry ∈ front, better chosen entry = true := by
  constructor
  · rintro ⟨before, after, parted, least, leads⟩
    obtain ⟨earlier, member, later, front, back, split, own, rfl⟩ :=
      exists_parts_of_flatMap_eq parted
    refine ⟨earlier, member, later, front, back, split, own, ?_, ?_, ?_⟩
    · exact fun other present entry inImage =>
        least entry (List.mem_flatMap.mpr ⟨other, present, inImage⟩)
    · exact fun other present entry inImage =>
        leads entry (List.mem_append_left _ (List.mem_flatMap.mpr ⟨other, present, inImage⟩))
    · exact fun entry present => leads entry (List.mem_append_right _ present)
  · rintro ⟨earlier, member, later, front, back, rfl, own, least, leads, leadsFront⟩
    refine ⟨earlier.flatMap image ++ front, back ++ later.flatMap image, ?_, ?_, ?_⟩
    · simp [own]
    · intro entry present
      obtain ⟨other, inList, inImage⟩ := List.mem_flatMap.mp present
      exact least other inList entry inImage
    · intro entry present
      rcases List.mem_append.mp present with inEarlier | inFront
      · obtain ⟨other, before, inImage⟩ := List.mem_flatMap.mp inEarlier
        exact leads other before entry inImage
      · exact leadsFront entry inFront

section Comparison

variable {compare : α → α → Ordering} [Std.TransCmp compare] {better : α → α → Bool}

private theorem not_better_self
    (agree : ∀ first second, better first second = true ↔ compare first second = .lt)
    (member : α) :
    better member member = false := by
  rw [← Bool.not_eq_true, agree]
  intro before
  exact Std.OrientedCmp.not_lt_of_lt before before

private theorem not_better_of_better
    (agree : ∀ first second, better first second = true ↔ compare first second = .lt)
    {first second : α}
    (before : better first second = true) :
    better second first = false := by
  rw [agree] at before
  rw [← Bool.not_eq_true, agree, Std.OrientedCmp.gt_of_lt before]
  decide

/-- What is better than a member is better than all that are not better than this member. -/
theorem better_of_better_of_not
    (agree : ∀ first second, better first second = true ↔ compare first second = .lt)
    {first second third : α}
    (before : better first second = true)
    (notBefore : better third second = false) :
    better first third = true := by
  rw [← Bool.not_eq_true, agree] at notBefore
  rw [agree] at before ⊢
  apply Std.TransCmp.lt_of_lt_of_isLE before
  rw [← Std.OrientedCmp.isGE_iff_isLE]
  cases rank : compare third second with
  | lt => exact absurd rank notBefore
  | eq => rfl
  | gt => rfl

/-- If none of three members is better than the next one the first is not better than the last. -/
theorem not_better_trans
    (agree : ∀ first second, better first second = true ↔ compare first second = .lt)
    {first second third : α}
    (before : better first second = false)
    (behind : better second third = false) :
    better first third = false := by
  cases rank : better first third with
  | false => rfl
  | true =>
      rw [better_of_better_of_not agree rank behind] at before
      cases before

/--
A fold of choices ends with what it held at first, if nothing in the list is better, and else with
the first best of the list, which is better than that.
-/
private theorem foldl_prefer
    (agree : ∀ first second, better first second = true ↔ compare first second = .lt)
    (held : α)
    (list : List α) :
    (list.foldl (prefer better) held = held ∧ ∀ other ∈ list, better other held = false) ∨
      (better (list.foldl (prefer better) held) held = true ∧
        IsFirstBest better list (list.foldl (prefer better) held)) := by
  induction list generalizing held with
  | nil => exact .inl ⟨rfl, by simp⟩
  | cons next rest ih =>
      rw [List.foldl_cons]
      cases rank : better next held with
      | true =>
          have replaced : prefer better held next = next := by simp [prefer, rank]
          rw [replaced]
          right
          rcases ih next with ⟨kept, least⟩ | ⟨before, earlier, later, parted, least, first⟩
          · rw [kept]
            refine ⟨rank, [], rest, rfl, ?_, by simp⟩
            simpa [not_better_self agree] using least
          · generalize rest.foldl (prefer better) next = chosen at *
            refine ⟨?_, next :: earlier, later, by rw [parted, List.cons_append], ?_, ?_⟩
            · rw [agree] at before rank ⊢
              exact Std.TransCmp.lt_trans before rank
            · simpa [not_better_of_better agree before] using least
            · simpa [before] using first
      | false =>
          have stays : prefer better held next = held := by simp [prefer, rank]
          rw [stays]
          rcases ih held with ⟨kept, least⟩ | ⟨before, earlier, later, parted, least, first⟩
          · exact .inl ⟨kept, by simpa [rank] using least⟩
          · right
            generalize rest.foldl (prefer better) held = chosen at *
            have beforeNext : better chosen next = true :=
              better_of_better_of_not agree before rank
            refine ⟨before, next :: earlier, later, by rw [parted, List.cons_append], ?_, ?_⟩
            · simpa [not_better_of_better agree beforeNext] using least
            · simpa [beforeNext] using first

/-- The choice is the first of the best members. -/
theorem isFirstBest_of_firstBest
    (agree : ∀ first second, better first second = true ↔ compare first second = .lt)
    {list : List α}
    {chosen : α}
    (found : firstBest better list = some chosen) :
    IsFirstBest better list chosen := by
  cases list with
  | nil => cases found
  | cons first rest =>
      rw [firstBest_cons, Option.some.injEq] at found
      subst found
      rcases foldl_prefer agree first rest with
        ⟨kept, least⟩ | ⟨before, earlier, later, parted, least, leads⟩
      · rw [kept]
        refine ⟨[], rest, rfl, ?_, by simp⟩
        simpa [not_better_self agree] using least
      · generalize rest.foldl (prefer better) first = chosen at *
        refine ⟨first :: earlier, later, by rw [parted, List.cons_append], ?_, ?_⟩
        · simpa [not_better_of_better agree before] using least
        · simpa [before] using leads

/-- What is chosen is the first of the best members. -/
theorem firstBest_eq_some_iff
    (agree : ∀ first second, better first second = true ↔ compare first second = .lt)
    {list : List α}
    {chosen : α} :
    firstBest better list = some chosen ↔ IsFirstBest better list chosen := by
  constructor
  · exact isFirstBest_of_firstBest agree
  · intro best
    cases found : firstBest better list with
    | none =>
        rw [firstBest_eq_none_iff] at found
        have present := best.mem
        rw [found] at present
        cases present
    | some other => rw [(isFirstBest_of_firstBest agree found).unique best]

/-- What is chosen from a permutation of a list is of the same rank. -/
theorem exists_firstBest_perm
    (agree : ∀ first second, better first second = true ↔ compare first second = .lt)
    {list other : List α}
    (permuted : other.Perm list)
    {chosen : α}
    (found : firstBest better list = some chosen) :
    ∃ alike, firstBest better other = some alike ∧ compare alike chosen = .eq := by
  have present := firstBest_mem found
  cases result : firstBest better other with
  | none =>
      rw [firstBest_eq_none_iff] at result
      rw [result, List.nil_perm] at permuted
      rw [permuted] at present
      cases present
  | some alike =>
      obtain ⟨_, _, _, least, _⟩ := isFirstBest_of_firstBest agree found
      obtain ⟨_, _, _, alikeLeast, _⟩ := isFirstBest_of_firstBest agree result
      have notBefore := least alike (permuted.mem_iff.mp (firstBest_mem result))
      have notBehind := alikeLeast chosen (permuted.mem_iff.mpr present)
      rw [← Bool.not_eq_true, agree] at notBefore notBehind
      refine ⟨alike, rfl, ?_⟩
      cases rank : compare alike chosen with
      | lt => exact absurd rank notBefore
      | eq => rfl
      | gt => exact absurd (Std.OrientedCmp.lt_of_gt rank) notBehind

/-- Members of different rank are chosen alike from every permutation of a list. -/
theorem firstBest_perm
    (agree : ∀ first second, better first second = true ↔ compare first second = .lt)
    {list other : List α}
    (permuted : other.Perm list)
    (distinct : list.Pairwise fun first second => compare first second ≠ .eq) :
    firstBest better other = firstBest better list := by
  cases found : firstBest better list with
  | none =>
      rw [firstBest_eq_none_iff] at found
      rw [found, List.perm_nil] at permuted
      rw [permuted, firstBest_nil]
  | some chosen =>
      obtain ⟨alike, result, equalRank⟩ := exists_firstBest_perm agree permuted found
      have symmetric : Std.Symm fun first second => compare first second ≠ .eq :=
        ⟨fun _ _ differ equal => differ (Std.OrientedCmp.eq_symm equal)⟩
      rw [result, Option.some.injEq]
      by_contra unequal
      exact distinct.forall (permuted.mem_iff.mp (firstBest_mem result)) (firstBest_mem found)
        unequal equalRank

end Comparison

end Choice
end ResourceRouting
