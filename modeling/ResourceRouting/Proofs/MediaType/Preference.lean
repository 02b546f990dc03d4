import ResourceRouting.Proofs.MediaType.Accept

/-!
# The order of preference

Media ranges that count are preferred by their qualities, and then by their specificities: on them
the preference is a total preorder, which is decided by the numbers alone.  Sorting puts them in the
one order in which none stands before a better one and equally good ones stand as they were listed.
-/

namespace ResourceRouting

namespace Quality

theorem isPositive_iff {quality : Quality} :
    quality.isPositive = true ↔ ∃ count, 0 < count ∧ quality = units count := by
  rw [isPositive, decide_eq_true_iff]
  cases quality with
  | undefined => simp [count]
  | negativeZero => simp [count]
  | units count => simp [Quality.count]

/-- Qualities that are greater than zero compare as the numbers of their units. -/
theorem compare?_of_isPositive
    {first second : Quality}
    (firstPositive : first.isPositive = true)
    (secondPositive : second.isPositive = true) :
    first.compare? second = some (compare first.count second.count) := by
  obtain ⟨firstCount, _, rfl⟩ := isPositive_iff.mp firstPositive
  obtain ⟨secondCount, _, rfl⟩ := isPositive_iff.mp secondPositive
  rfl

end Quality

namespace MediaType

/-- A range counts only with a quality that is a number greater than zero. -/
def IsUsable (range : MediaType) : Prop :=
  ∃ count, 0 < count ∧ range.quality = .units count

instance : DecidablePred IsUsable := fun range =>
  decidable_of_iff (range.quality.isPositive = true) Quality.isPositive_iff

theorem isUsable_iff {range : MediaType} :
    range.IsUsable ↔ range.quality.isPositive = true :=
  Quality.isPositive_iff.symm

theorem filter_isUsable (ranges : List MediaType) :
    ranges.filter (IsUsable ·) = ranges.filter (·.quality.isPositive) := by
  apply List.filter_congr
  intro range _
  rw [Bool.eq_iff_iff, decide_eq_true_iff]
  exact isUsable_iff

theorem isUsable_of_mem_filter
    (ranges : List MediaType)
    (range : MediaType)
    (present : range ∈ ranges.filter (IsUsable ·)) :
    range.IsUsable :=
  of_decide_eq_true (List.mem_filter.mp present).2

/-- A range is no worse than another one: by its quality, and then by its specificity. -/
def IsNoWorse (first second : MediaType) : Prop :=
  second.quality.count < first.quality.count ∨
    second.quality.count = first.quality.count ∧ second.specificity ≤ first.specificity

/-- Two ranges have the same quality and the same specificity. -/
def HasSameRank (first second : MediaType) : Prop :=
  first.quality.count = second.quality.count ∧ first.specificity = second.specificity

instance (range : MediaType) : DecidablePred (HasSameRank range) := fun other =>
  inferInstanceAs (Decidable
    (range.quality.count = other.quality.count ∧ range.specificity = other.specificity))

theorem hasSameRank_iff {first second : MediaType} :
    first.HasSameRank second ↔ first.IsNoWorse second ∧ second.IsNoWorse first := by
  unfold HasSameRank IsNoWorse
  omega

theorem IsNoWorse.refl (range : MediaType) : range.IsNoWorse range :=
  .inr ⟨rfl, Nat.le_refl _⟩

theorem isNoWorse_total (first second : MediaType) :
    first.IsNoWorse second ∨ second.IsNoWorse first := by
  unfold IsNoWorse
  omega

theorem IsNoWorse.trans
    {first second third : MediaType}
    (before : first.IsNoWorse second)
    (behind : second.IsNoWorse third) :
    first.IsNoWorse third := by
  unfold IsNoWorse at *
  omega

/-- Usable ranges are preferred by the numbers alone. -/
theorem preference_eq
    {first second : MediaType}
    (firstUsable : first.IsUsable)
    (secondUsable : second.IsUsable) :
    preference first second =
      (compare second.quality.count first.quality.count).then
        (compare second.specificity first.specificity) := by
  rw [preference, Quality.compare?_of_isPositive (Quality.isPositive_iff.mpr secondUsable)
    (Quality.isPositive_iff.mpr firstUsable), Option.getD_some]

theorem ranksBefore_iff
    {first second : MediaType}
    (firstUsable : first.IsUsable)
    (secondUsable : second.IsUsable) :
    ranksBefore first second = true ↔ first.IsNoWorse second := by
  rw [ranksBefore, preference_eq firstUsable secondUsable, Ordering.isLE_then_iff_or,
    Nat.compare_eq_lt, Nat.compare_eq_eq, Nat.isLE_compare]
  rfl

/--
The preference orders some ranges totally, and never because their qualities do not compare.
-/
structure IsTotalOn (ranges : List MediaType) : Prop where
  /-- The qualities of any two ranges compare. -/
  comparable : ∀ first ∈ ranges, ∀ second ∈ ranges,
    ∃ order, first.quality.compare? second.quality = some order
  /-- The preference is reversed when two ranges are exchanged. -/
  reversed : ∀ first ∈ ranges, ∀ second ∈ ranges,
    preference second first = (preference first second).swap
  /-- Of any two ranges one may stand before the other. -/
  total : ∀ first ∈ ranges, ∀ second ∈ ranges,
    ranksBefore first second = true ∨ ranksBefore second first = true
  /-- A range may stand before whatever those behind it may stand before. -/
  transitive : ∀ first ∈ ranges, ∀ second ∈ ranges, ∀ third ∈ ranges,
    ranksBefore first second = true → ranksBefore second third = true →
      ranksBefore first third = true

/-- The preference is a total preorder on usable ranges. -/
theorem isTotalOn_of_isUsable
    {ranges : List MediaType}
    (usable : ∀ range ∈ ranges, range.IsUsable) :
    IsTotalOn ranges where
  comparable first one second other :=
    ⟨_, Quality.compare?_of_isPositive (Quality.isPositive_iff.mpr (usable first one))
      (Quality.isPositive_iff.mpr (usable second other))⟩
  reversed first one second other := by
    rw [preference_eq (usable first one) (usable second other),
      preference_eq (usable second other) (usable first one), Ordering.swap_then,
      Nat.compare_swap, Nat.compare_swap]
  total first one second other := by
    rw [ranksBefore_iff (usable first one) (usable second other),
      ranksBefore_iff (usable second other) (usable first one)]
    exact isNoWorse_total first second
  transitive first one second other third last := by
    rw [ranksBefore_iff (usable first one) (usable second other),
      ranksBefore_iff (usable second other) (usable third last),
      ranksBefore_iff (usable first one) (usable third last)]
    exact IsNoWorse.trans

/-- The ranges that were listed stand in order of preference. -/
structure IsRanking (listed ranked : List MediaType) : Prop where
  /-- They are the ranges that were listed, each as often as it was. -/
  perm : ranked.Perm listed
  /-- None stands before a better one. -/
  ordered : ranked.Pairwise IsNoWorse
  /-- Those of one rank stand in the order in which they were listed. -/
  stable : ∀ range, ranked.filter (HasSameRank range ·) = listed.filter (HasSameRank range ·)

section Sorting

variable {range : MediaType} {ranges : List MediaType}

/-- A range that stands before its inferiors is inserted before them. -/
theorem pairwise_insertRange
    (usable : ∀ other ∈ range :: ranges, other.IsUsable)
    (ordered : ranges.Pairwise IsNoWorse) :
    (insertRange range ranges).Pairwise IsNoWorse := by
  induction ranges with
  | nil => exact List.pairwise_singleton _ _
  | cons other ranges ih =>
      obtain ⟨first, others⟩ := List.pairwise_cons.mp ordered
      have own := usable range (List.mem_cons_self ..)
      have next := usable other (by simp)
      rw [insertRange]
      split
      · rename_i before
        have better := (ranksBefore_iff own next).mp before
        refine List.pairwise_cons.mpr ⟨fun later present => ?_, ordered⟩
        rcases List.mem_cons.mp present with rfl | behind
        · exact better
        · exact better.trans (first later behind)
      · rename_i behind
        have worse : other.IsNoWorse range := by
          refine (isNoWorse_total other range).resolve_right fun better => ?_
          exact behind ((ranksBefore_iff own next).mpr better)
        refine List.pairwise_cons.mpr
          ⟨fun later present => ?_, ih (fun one present => usable one ?_) others⟩
        · rcases List.mem_cons.mp ((insertRange_perm range ranges).mem_iff.mp present) with
            rfl | further
          · exact worse
          · exact first later further
        · simp only [List.mem_cons] at present ⊢
          exact present.imp_right .inr

/-- Inserting a range does not take it past another one of its rank. -/
theorem filter_insertRange
    (usable : ∀ other ∈ range :: ranges, other.IsUsable)
    (rank : MediaType) :
    (insertRange range ranges).filter (HasSameRank rank ·) =
      (range :: ranges).filter (HasSameRank rank ·) := by
  induction ranges with
  | nil => rfl
  | cons other ranges ih =>
      rw [insertRange]
      split
      · rfl
      · rename_i behind
        have own := usable range (List.mem_cons_self ..)
        have next := usable other (by simp)
        rw [ranksBefore_iff own next] at behind
        have apart : ¬(rank.HasSameRank range ∧ rank.HasSameRank other) := by
          unfold HasSameRank IsNoWorse at *
          omega
        rw [List.filter_cons, ih fun one present => usable one ?_]
        · by_cases same : rank.HasSameRank other
          · have differs : ¬rank.HasSameRank range := fun both => apart ⟨both, same⟩
            simp [same, differs]
          · simp [List.filter_cons, same]
        · simp only [List.mem_cons] at present ⊢
          exact present.imp_right .inr

/-- A range that was listed before all others is inserted among them in its place. -/
theorem IsRanking.insert
    {listed ranked : List MediaType}
    (ranking : IsRanking listed ranked)
    (usable : ∀ other ∈ range :: listed, other.IsUsable) :
    IsRanking (range :: listed) (insertRange range ranked) := by
  have rankedUsable : ∀ other ∈ range :: ranked, other.IsUsable := fun other present =>
    usable other ((ranking.perm.cons range).mem_iff.mp present)
  refine ⟨?_, pairwise_insertRange rankedUsable ranking.ordered, fun rank => ?_⟩
  · exact (insertRange_perm range ranked).trans (ranking.perm.cons range)
  · rw [filter_insertRange rankedUsable, List.filter_cons, List.filter_cons, ranking.stable]

/-- Usable ranges are sorted in order of preference. -/
theorem isRanking_sortRanges (usable : ∀ other ∈ ranges, other.IsUsable) :
    IsRanking ranges (sortRanges ranges) := by
  induction ranges with
  | nil => exact ⟨.refl _, .nil, fun _ => rfl⟩
  | cons range ranges ih =>
      exact (ih fun other present => usable other (List.mem_cons_of_mem _ present)).insert usable

end Sorting

/-- Ranges stand in order of preference in one way only. -/
theorem IsRanking.unique
    {listed first second : List MediaType}
    (one : IsRanking listed first)
    (other : IsRanking listed second) :
    first = second := by
  have perm := one.perm.trans other.perm.symm
  have same : ∀ rank : MediaType,
      first.filter (HasSameRank rank ·) = second.filter (HasSameRank rank ·) := fun rank =>
    (one.stable rank).trans (other.stable rank).symm
  replace one := one.ordered
  replace other := other.ordered
  induction first generalizing second with
  | nil => exact perm.nil_eq
  | cons range first ih =>
      cases second with
      | nil => exact absurd perm.symm.nil_eq (List.cons_ne_nil _ _).symm
      | cons next second =>
          obtain ⟨rangeFirst, firstOrdered⟩ := List.pairwise_cons.mp one
          obtain ⟨nextFirst, secondOrdered⟩ := List.pairwise_cons.mp other
          have noWorse : range.IsNoWorse next := by
            rcases List.mem_cons.mp (perm.mem_iff.mpr (List.mem_cons_self ..)) with rfl | later
            · exact IsNoWorse.refl _
            · exact rangeFirst _ later
          have noBetter : next.IsNoWorse range := by
            rcases List.mem_cons.mp (perm.mem_iff.mp (List.mem_cons_self ..)) with rfl | later
            · exact IsNoWorse.refl _
            · exact nextFirst _ later
          -- Both stand first among the ranges of their rank, where they are the same.
          have heads := same range
          have alike := hasSameRank_iff.mpr ⟨noWorse, noBetter⟩
          rw [List.filter_cons_of_pos (by simp [HasSameRank]),
            List.filter_cons_of_pos (by simpa using alike)] at heads
          obtain ⟨rfl, _⟩ := List.cons.inj heads
          rw [ih perm.cons_inv (fun rank => ?_) firstOrdered secondOrdered]
          have both := same rank
          rw [List.filter_cons, List.filter_cons] at both
          split at both
          · exact (List.cons.inj both).2
          · exact both

end MediaType
end ResourceRouting
