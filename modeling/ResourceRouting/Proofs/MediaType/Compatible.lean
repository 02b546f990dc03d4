import ResourceRouting.MediaType

/-!
# Compatible media types

When two media types or ranges overlap.  Kinds and subtypes are compared, suffixes are not, so a
type overlaps with types that differ from it in the suffix.
-/

namespace ResourceRouting
namespace MediaType

theorem isConcrete_iff {media : MediaType} :
    media.isConcrete = true ↔ media.kind ≠ star ∧ media.subtype ≠ star := by
  simp [isConcrete, isWildcardKind, isWildcardSubtype]

theorem isCompatible_iff {first second : MediaType} :
    first.isCompatible second = true ↔
      (first.kind = star ∨ second.kind = star ∨ first.kind = second.kind) ∧
        (first.subtype = star ∨ second.subtype = star ∨ first.subtype = second.subtype) := by
  simp [isCompatible, isWildcardKind, isWildcardSubtype, or_assoc]

theorem isCompatible_comm (first second : MediaType) :
    first.isCompatible second = second.isCompatible first := by
  rw [Bool.eq_iff_iff, isCompatible_iff, isCompatible_iff]
  grind

/-- A media type is compatible with itself, whatever its parameters are. -/
theorem isCompatible_withoutParameters (media : MediaType) :
    media.withoutParameters.isCompatible media = true :=
  isCompatible_iff.mpr ⟨.inr (.inr rfl), .inr (.inr rfl)⟩

/-- The range of all media types is compatible with each. -/
theorem isCompatible_of_star
    {range : MediaType}
    (kind : range.kind = star)
    (subtype : range.subtype = star)
    (media : MediaType) :
    media.isCompatible range = true :=
  isCompatible_iff.mpr ⟨.inr (.inl kind), .inr (.inl subtype)⟩

/-- A range leaves either the kind or the subtype open, but not both. -/
def IsPartial (range : MediaType) : Prop :=
  range.kind = star ∧ range.subtype ≠ star ∨ range.kind ≠ star ∧ range.subtype = star

/-- A range is that of all media types, or a partial one. -/
theorem isStar_or_isPartial {range : MediaType} (ranges : range.isConcrete = false) :
    (range.kind = star ∧ range.subtype = star) ∨ range.IsPartial := by
  by_cases kind : range.kind = star
  · by_cases subtype : range.subtype = star
    · exact .inl ⟨kind, subtype⟩
    · exact .inr (.inl ⟨kind, subtype⟩)
  · by_cases subtype : range.subtype = star
    · exact .inr (.inr ⟨kind, subtype⟩)
    · rw [isConcrete_iff.mpr ⟨kind, subtype⟩] at ranges
      cases ranges

/-- A range covers a media type: it is the range of all types, or of all of the type's kind. -/
def Covers (range media : MediaType) : Prop :=
  (range.kind = star ∨ range.kind = media.kind) ∧ range.subtype = star ∧ range.suffix = none

/-- A media type is compatible with another one that it neither is nor covers. -/
inductive IsMistakenFor (other media : MediaType) : Prop
  /-- The two differ in the suffix. -/
  | suffix
      (kind : other.kind = media.kind)
      (subtype : other.subtype = media.subtype)
      (differ : other.suffix ≠ media.suffix)
  /-- A range of the types with a suffix is taken for one of all types. -/
  | suffixedRange
      (kind : other.kind = star ∨ other.kind = media.kind)
      (subtype : other.subtype = star)
      (suffixed : other.suffix ≠ none)
  /-- A range leaves the kind open, but not the subtype. -/
  | openKind
      (kind : other.kind = star)
      (subtype : other.subtype = media.subtype)

/-- What is compatible with a concrete media type: the type, a range of it, or a mistaken one. -/
theorem isCompatible_cases
    {other media : MediaType}
    (concrete : media.isConcrete = true)
    (compatible : other.isCompatible media = true) :
    other.essence = media.essence ∨ other.Covers media ∨ other.IsMistakenFor media := by
  obtain ⟨kindFixed, subtypeFixed⟩ := isConcrete_iff.mp concrete
  obtain ⟨kinds, subtypes⟩ := isCompatible_iff.mp compatible
  simp only [kindFixed, subtypeFixed, false_or] at kinds subtypes
  rcases subtypes with anySubtype | subtype
  · by_cases suffixed : other.suffix = none
    · exact .inr (.inl ⟨kinds, anySubtype, suffixed⟩)
    · exact .inr (.inr (.suffixedRange kinds anySubtype suffixed))
  · rcases kinds with anyKind | kind
    · exact .inr (.inr (.openKind anyKind subtype))
    · by_cases same : other.suffix = media.suffix
      · exact .inl (by rw [essence, essence, kind, subtype, same])
      · exact .inr (.inr (.suffix kind subtype same))

end MediaType
end ResourceRouting
