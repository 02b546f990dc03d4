import ResourceRouting.Dispatch.Negotiation
import ResourceRouting.Proofs.Choice

/-!
# The best pair

A pair of an accepted range and a produced type outranks another one by the quality of its range,
then by how specific its range is, and then by how specific its type is.  What is negotiated is the
first of the best pairs, and with it a media type unless both sides leave it open.
-/

namespace ResourceRouting
namespace Negotiation
namespace Score

instance : Std.TransCmp order := by
  have lexicographic : order = compareLex (compareOn quality)
      (compareLex (compareOn range) (compareOn produced)) := rfl
  rw [lexicographic]
  infer_instance

/-- Whether a score is worse than another one. -/
def worse (first second : Score) : Ordering :=
  order second first

instance : Std.TransCmp worse := by
  have reversed : Std.TransCmp fun first second => order second first := .opposite
  exact reversed

theorem exceeds_iff {first second : Score} :
    first.exceeds second = true ↔ worse first second = .lt := by
  rw [exceeds, decide_eq_true_iff, worse]
  exact Std.OrientedCmp.gt_iff_lt

/-- A score is better by the first number that differs. -/
theorem exceeds_iff_lex {first second : Score} :
    first.exceeds second = true ↔
      second.quality < first.quality ∨
        second.quality = first.quality ∧
          (second.range < first.range ∨
            second.range = first.range ∧ second.produced < first.produced) := by
  rw [exceeds_iff, worse, order, Ordering.then_eq_lt, Ordering.then_eq_lt]
  simp only [Nat.compare_eq_lt, Nat.compare_eq_eq]

end Score

/-- A pair outranks another one. -/
inductive Outranks (first second : Pairing) : Prop
  /-- Its range is of greater quality, in thousandths. -/
  | quality
      (greater : second.range.quality.thousandths < first.range.quality.thousandths)
  /-- Of ranges of equal quality, its range is more specific. -/
  | range
      (quality : second.range.quality.thousandths = first.range.quality.thousandths)
      (greater : second.range.specificity < first.range.specificity)
  /-- Of ranges that are alike in both, its produced type is more specific. -/
  | produced
      (quality : second.range.quality.thousandths = first.range.quality.thousandths)
      (range : second.range.specificity = first.range.specificity)
      (greater : second.produced.specificity < first.produced.specificity)

/-- Whether the score of a pair is better than that of another one. -/
def betterPairing (next held : Pairing) : Bool :=
  next.score.exceeds held.score

/-- The score of a pair says what it outranks. -/
theorem betterPairing_iff_outranks {first second : Pairing} :
    betterPairing first second = true ↔ Outranks first second := by
  rw [betterPairing, Score.exceeds_iff_lex]
  constructor
  · rintro (greater | ⟨quality, greater | ⟨range, greater⟩⟩)
    · exact .quality greater
    · exact .range quality greater
    · exact .produced quality range greater
  · rintro (greater | ⟨quality, greater⟩ | ⟨quality, range, greater⟩)
    · exact .inl greater
    · exact .inr ⟨quality, .inl greater⟩
    · exact .inr ⟨quality, .inr ⟨range, greater⟩⟩

theorem betterPairing_eq_false_iff {first second : Pairing} :
    betterPairing first second = false ↔ ¬Outranks first second := by
  rw [← betterPairing_iff_outranks, Bool.not_eq_true]

instance : Std.TransCmp fun first second : Pairing => Score.worse first.score second.score where
  eq_swap := Std.OrientedCmp.eq_swap
  isLE_trans := Std.TransCmp.isLE_trans

theorem betterPairing_iff (first second : Pairing) :
    betterPairing first second = true ↔ Score.worse first.score second.score = .lt :=
  Score.exceeds_iff

/-- A pair of an accepted range and a produced type that overlap. -/
structure IsPair (produced accepted : List MediaType) (pairing : Pairing) : Prop where
  /-- The range is accepted. -/
  listed : pairing.range ∈ accepted
  /-- The type is produced; where no types are declared the range of all types stands for them. -/
  written : pairing.produced ∈ Operation.orWildcard produced
  /-- The range and the type overlap. -/
  fits : pairing.produced.isCompatible pairing.range = true

/--
The first of the best pairs: no pair outranks it, and it outranks the pairs of the ranges before its
own, and those of its own range with the types before its own.
-/
structure IsFirstPair (produced accepted : List MediaType) (pairing : Pairing) : Prop where
  /-- It is a pair. -/
  isPair : IsPair produced accepted pairing
  /-- No pair outranks it. -/
  greatest : ∀ other, IsPair produced accepted other → ¬Outranks other pairing
  /-- It outranks the pairs of the ranges before its own. -/
  first :
    ∃ rangesBefore rangesBehind,
      accepted = rangesBefore ++ pairing.range :: rangesBehind ∧
        ∀ other, IsPair produced rangesBefore other → Outranks pairing other
  /-- It outranks the pairs of its range with the types before its own. -/
  firstOfRange :
    ∃ typesBefore typesBehind,
      Operation.orWildcard produced = typesBefore ++ pairing.produced :: typesBehind ∧
        ∀ media ∈ typesBefore, media.isCompatible pairing.range = true →
          Outranks pairing ⟨pairing.range, media⟩

/-- The pairs of a range with those of some types that overlap with it. -/
def pairsOf (types : List MediaType) (range : MediaType) : List Pairing :=
  (types.filter (·.isCompatible range)).map (Pairing.mk range)

theorem mem_pairsOf_iff {types : List MediaType} {range : MediaType} {pairing : Pairing} :
    pairing ∈ pairsOf types range ↔
      pairing.range = range ∧ pairing.produced ∈ types ∧
        pairing.produced.isCompatible range = true := by
  rw [pairsOf, List.mem_map]
  constructor
  · rintro ⟨media, filtered, rfl⟩
    exact ⟨rfl, List.mem_filter.mp filtered⟩
  · rintro ⟨rfl, fitting⟩
    exact ⟨pairing.produced, List.mem_filter.mpr fitting, rfl⟩

theorem pairings_eq_flatMap (produced accepted : List MediaType) :
    pairings produced accepted = accepted.flatMap (pairsOf (Operation.orWildcard produced)) := rfl

theorem mem_pairings_iff {produced accepted : List MediaType} {pairing : Pairing} :
    pairing ∈ pairings produced accepted ↔ IsPair produced accepted pairing := by
  rw [pairings_eq_flatMap, List.mem_flatMap]
  constructor
  · rintro ⟨range, present, inRange⟩
    obtain ⟨rfl, written, fits⟩ := mem_pairsOf_iff.mp inRange
    exact ⟨present, written, fits⟩
  · rintro ⟨present, written, fits⟩
    exact ⟨pairing.range, present, mem_pairsOf_iff.mpr ⟨rfl, written, fits⟩⟩

/-- What is before a pair among the pairs of its range are the pairs with the types before. -/
theorem exists_types_of_pairsOf_eq
    {types : List MediaType}
    {range : MediaType}
    {pairing : Pairing}
    {front back : List Pairing}
    (parted : pairsOf types range = front ++ pairing :: back) :
    ∃ typesBefore typesBehind,
      types = typesBefore ++ pairing.produced :: typesBehind ∧ pairing.range = range ∧
        ∀ media ∈ typesBefore, media.isCompatible range = true → ⟨range, media⟩ ∈ front := by
  obtain ⟨fitsBefore, fitsBehind, filtered, rfl, behind⟩ := List.map_eq_append_iff.mp parted
  obtain ⟨media, others, rfl, rfl, _⟩ := List.map_eq_cons_iff.mp behind
  obtain ⟨before, rest, rfl, rfl, filteredRest⟩ := List.filter_eq_append_iff.mp filtered
  obtain ⟨skipped, typesBehind, rfl, misfits, _, _⟩ := List.filter_eq_cons_iff.mp filteredRest
  refine ⟨before ++ skipped, typesBehind, (List.append_assoc ..).symm, rfl, ?_⟩
  intro other present fits
  rcases List.mem_append.mp present with inBefore | inSkipped
  · exact mem_pairsOf_iff.mpr ⟨rfl, inBefore, fits⟩
  · exact absurd fits (misfits other inSkipped)

theorem pairsOf_append_cons
    {pairing : Pairing}
    (fits : pairing.produced.isCompatible pairing.range = true)
    (before behind : List MediaType) :
    pairsOf (before ++ pairing.produced :: behind) pairing.range =
      pairsOf before pairing.range ++ pairing :: pairsOf behind pairing.range := by
  have kept : (pairing.produced :: behind).filter (·.isCompatible pairing.range) =
      pairing.produced :: behind.filter (·.isCompatible pairing.range) :=
    List.filter_cons_of_pos fits
  rw [pairsOf, List.filter_append, kept, List.map_append, List.map_cons]
  rfl

/-- The first of the best pairs in order of the ranges, and of the types for each of them. -/
theorem isFirstBest_pairings_iff {produced accepted : List MediaType} {pairing : Pairing} :
    Choice.IsFirstBest betterPairing (pairings produced accepted) pairing ↔
      IsFirstPair produced accepted pairing := by
  have pairs : ∀ {ranges : List MediaType} {other : Pairing},
      (∃ range ∈ ranges, other ∈ pairsOf (Operation.orWildcard produced) range) ↔
        IsPair produced ranges other :=
    List.mem_flatMap.symm.trans mem_pairings_iff
  rw [pairings_eq_flatMap, Choice.isFirstBest_flatMap_iff]
  constructor
  · rintro ⟨rangesBefore, range, rangesBehind, front, back, rfl, own, least, leads, leadsFront⟩
    have member : pairing ∈ pairsOf (Operation.orWildcard produced) range := by simp [own]
    obtain ⟨typesBefore, typesBehind, types, rfl, inFront⟩ := exists_types_of_pairsOf_eq own
    refine ⟨pairs.mp ⟨_, by simp, member⟩, ?_, ⟨rangesBefore, rangesBehind, rfl, ?_⟩,
      typesBefore, typesBehind, types, ?_⟩
    · intro other isPair
      obtain ⟨range, present, inRange⟩ := pairs.mpr isPair
      exact betterPairing_eq_false_iff.mp (least range present other inRange)
    · intro other isPair
      obtain ⟨range, present, inRange⟩ := pairs.mpr isPair
      exact betterPairing_iff_outranks.mp (leads range present other inRange)
    · exact fun media present fits =>
        betterPairing_iff_outranks.mp (leadsFront _ (inFront media present fits))
  · rintro ⟨isPair, greatest, ⟨rangesBefore, rangesBehind, rfl, leads⟩,
      typesBefore, typesBehind, types, leadsTypes⟩
    refine ⟨rangesBefore, pairing.range, rangesBehind, _, _, rfl,
      by rw [types, pairsOf_append_cons isPair.fits], ?_, ?_, ?_⟩
    · exact fun range present other inRange =>
        betterPairing_eq_false_iff.mpr (greatest other (pairs.mp ⟨range, present, inRange⟩))
    · exact fun range present other inRange =>
        betterPairing_iff_outranks.mpr (leads other (pairs.mp ⟨range, present, inRange⟩))
    · intro other present
      obtain ⟨alike, inTypes, fits⟩ := mem_pairsOf_iff.mp present
      have outranked := leadsTypes other.produced inTypes fits
      rw [← alike] at outranked
      exact betterPairing_iff_outranks.mpr outranked

/-- What is negotiated is the first of the best pairs. -/
theorem negotiate_eq_some_iff {produced accepted : List MediaType} {pairing : Pairing} :
    negotiate produced accepted = some pairing ↔ IsFirstPair produced accepted pairing :=
  (Choice.firstBest_eq_some_iff betterPairing_iff).trans isFirstBest_pairings_iff

/-- Nothing is negotiated exactly if no produced type overlaps with an accepted range. -/
theorem negotiate_eq_none_iff {produced accepted : List MediaType} :
    negotiate produced accepted = none ↔
      ∀ range ∈ accepted, ∀ media ∈ Operation.orWildcard produced,
        media.isCompatible range = false := by
  rw [negotiate, Choice.firstBest_eq_none_iff, List.eq_nil_iff_forall_not_mem]
  constructor
  · intro absent range present media written
    rw [← Bool.not_eq_true]
    intro fits
    exact absent ⟨range, media⟩ (mem_pairings_iff.mpr ⟨present, written, fits⟩)
  · intro foreign pairing present
    obtain ⟨present, written, fits⟩ := mem_pairings_iff.mp present
    rw [foreign _ present _ written] at fits
    cases fits

/-- A pair does not outrank the one that is negotiated. -/
theorem exists_negotiate_of_isPair
    {produced accepted : List MediaType}
    {pairing : Pairing}
    (isPair : IsPair produced accepted pairing) :
    ∃ best, negotiate produced accepted = some best ∧ betterPairing pairing best = false := by
  cases found : negotiate produced accepted with
  | none =>
      have misfit := negotiate_eq_none_iff.mp found _ isPair.listed _ isPair.written
      rw [isPair.fits] at misfit
      cases misfit
  | some best =>
      exact ⟨best, rfl, betterPairing_eq_false_iff.mpr
        ((negotiate_eq_some_iff.mp found).greatest pairing isPair)⟩

/-- What a pair settles on. -/
inductive Settles (pairing : Pairing) : Option MediaType → Prop
  /-- A produced type that is one type is settled as it is declared. -/
  | produced
      (concrete : pairing.produced.isConcrete = true) :
      Settles pairing (some pairing.produced)
  /-- In place of several types the accepted one is settled, without its parameters. -/
  | accepted
      (several : pairing.produced.isConcrete = false)
      (concrete : pairing.range.isConcrete = true) :
      Settles pairing (some pairing.range.withoutParameters)
  /-- Two ranges of several types settle nothing. -/
  | nothing
      (several : pairing.produced.isConcrete = false)
      (wide : pairing.range.isConcrete = false) :
      Settles pairing none

/-- The media type of a pair is what it settles on. -/
theorem mediaType?_eq_iff_settles {pairing : Pairing} {media : Option MediaType} :
    pairing.mediaType? = media ↔ Settles pairing media := by
  rw [Pairing.mediaType?]
  constructor
  · rintro rfl
    split
    · rename_i concrete
      exact .produced concrete
    · rename_i several
      rw [Bool.not_eq_true] at several
      split
      · rename_i concrete
        exact .accepted several concrete
      · rename_i wide
        exact .nothing several (Bool.not_eq_true _ ▸ wide)
  · rintro (concrete | ⟨several, concrete⟩ | ⟨several, wide⟩)
    · rw [if_pos concrete]
    · rw [if_neg (Bool.not_eq_true _ ▸ several), if_pos concrete]
    · rw [if_neg (Bool.not_eq_true _ ▸ several), if_neg (Bool.not_eq_true _ ▸ wide)]

end Negotiation
end ResourceRouting
