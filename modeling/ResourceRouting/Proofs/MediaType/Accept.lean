import ResourceRouting.MediaType.Accept

/-!
# Accepted media ranges

Which ranges an `Accept` header stands for: all of positive quality that it lists, or every media
type if it lists nothing.
-/

namespace ResourceRouting
namespace MediaType

/-- A header accepts a range. -/
inductive Accepts : Option Text → MediaType → Prop
  /-- Without a header every media type is accepted. -/
  | absent : Accepts none wildcard
  /-- A blank header accepts every media type. -/
  | blank
      {text : Text}
      (empty : Text.trim text = []) :
      Accepts (some text) wildcard
  /-- A header accepts the ranges of positive quality among its pieces. -/
  | listed
      {text piece : Text}
      {range : MediaType}
      (nonempty : Text.trim text ≠ [])
      (present : piece ∈ headerPieces text)
      (valid : read piece = .ok range)
      (positive : range.quality.isPositive = true) :
      Accepts (some text) range

theorem insertRange_perm (range : MediaType) (ranges : List MediaType) :
    (insertRange range ranges).Perm (range :: ranges) := by
  induction ranges with
  | nil => exact .refl _
  | cons other rest ih =>
      rw [insertRange]
      split
      · exact .refl _
      · exact (ih.cons other).trans (.swap range other rest)

/-- Sorting keeps the ranges. -/
theorem sortRanges_perm (ranges : List MediaType) : (sortRanges ranges).Perm ranges := by
  induction ranges with
  | nil => exact .refl _
  | cons range rest ih => exact (insertRange_perm range (sortRanges rest)).trans (ih.cons range)

/-- What is read from some texts are the media types of all of them. -/
theorem mem_of_readAll
    {texts : List Text}
    {types : List MediaType}
    (all : readAll texts = .ok types)
    {media : MediaType} :
    media ∈ types ↔ ∃ text ∈ texts, read text = .ok media := by
  induction texts generalizing types with
  | nil =>
      cases all
      simp
  | cons text rest ih =>
      cases first : read text with
      | error fault => simp [readAll, first] at all
      | ok own =>
          cases others : readAll rest with
          | error fault => simp [readAll, first, others, Except.map] at all
          | ok further =>
              simp only [readAll, first, others, Except.map, Except.ok.injEq] at all
              subst all
              rw [List.mem_cons, ih others]
              simp [first, eq_comm]

/-- The ranges of a header are those that it accepts. -/
theorem mem_accepted_iff
    {header : Option Text}
    {ranges : List MediaType}
    (result : accepted header = .ok ranges)
    {range : MediaType} :
    range ∈ ranges ↔ Accepts header range := by
  cases header with
  | none =>
      cases result
      rw [List.mem_singleton]
      constructor
      · rintro rfl
        exact .absent
      · rintro ⟨_⟩
        rfl
  | some text =>
      by_cases empty : Text.trim text = []
      · simp only [accepted, empty, List.isEmpty_nil, if_true, Except.ok.injEq] at result
        subst result
        rw [List.mem_singleton]
        constructor
        · rintro rfl
          exact .blank empty
        · intro accepts
          cases accepts with
          | blank _ => rfl
          | listed nonempty _ _ _ => exact absurd empty nonempty
      · cases all : readAll (headerPieces text) with
        | error fault => simp [accepted, empty, all, Except.map] at result
        | ok types =>
            simp only [accepted, List.isEmpty_iff, empty, if_false, all, Except.map,
              Except.ok.injEq] at result
            subst result
            rw [(sortRanges_perm _).mem_iff, List.mem_filter, mem_of_readAll all]
            constructor
            · rintro ⟨⟨piece, present, valid⟩, positive⟩
              exact .listed empty present valid positive
            · intro accepts
              cases accepts with
              | blank blank => exact absurd blank empty
              | listed _ present valid positive => exact ⟨⟨_, present, valid⟩, positive⟩

end MediaType
end ResourceRouting
