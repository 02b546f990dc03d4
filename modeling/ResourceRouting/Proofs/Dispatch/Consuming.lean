import ResourceRouting.Proofs.Dispatch.Selection
import ResourceRouting.Proofs.MediaType.Compatible

/-!
# What reads an entity

The media types that a selected operation declares to read.  One of them is the type of the entity
or covers it, unless one is mistaken for it: suffixes are not compared.
-/

namespace ResourceRouting
namespace Dispatch

variable {σ : Type}

/-- A selected operation declares no types, or one that is compatible with that of the entity. -/
theorem exists_isCompatible_of_select
    {settings : DispatchSettings}
    {operations : List (Operation σ)}
    {request : Request}
    {media : MediaType}
    {selection : Selection σ}
    (typed : request.contentType = .ok (some media))
    (selected : select settings operations request = .ok (some selection)) :
    selection.operation.consumes = [] ∨
      ∃ consumed ∈ selection.operation.consumes, consumed.isCompatible media = true := by
  obtain ⟨_, _, valid, _, best⟩ := isBest_of_select selected
  rw [typed] at valid
  cases valid
  exact best.taken.2

/--
An entity reaches an operation that declares no types, its type, or a range that covers it, if its
type is concrete and no declared type is mistaken for it.
-/
theorem selected_consumes
    {settings : DispatchSettings}
    {operations : List (Operation σ)}
    {request : Request}
    {media : MediaType}
    {selection : Selection σ}
    (typed : request.contentType = .ok (some media))
    (concrete : media.isConcrete = true)
    (selected : select settings operations request = .ok (some selection))
    (unmistaken : ∀ consumed ∈ selection.operation.consumes, ¬consumed.IsMistakenFor media) :
    selection.operation.consumes = [] ∨
      ∃ consumed ∈ selection.operation.consumes,
        consumed.essence = media.essence ∨ consumed.Covers media := by
  refine (exists_isCompatible_of_select typed selected).imp_right ?_
  rintro ⟨consumed, present, compatible⟩
  refine ⟨consumed, present, ?_⟩
  rcases MediaType.isCompatible_cases concrete compatible with same | covers | mistaken
  · exact .inl same
  · exact .inr covers
  · exact absurd mistaken (unmistaken consumed present)

/-- An operation that stores entities of some media types. -/
def storing (consumes : List MediaType) : Operation Unit where
  method := .post
  consumes := consumes
  handler _ state := (.ok .noContent, state)

/-- A request to store an entity of a media type. -/
def storeRequest (media : Text) : Request where
  method := .post
  path := "/a".toList
  headers := ⟨[(Headers.contentType, media)]⟩

/-- Of two operations the one that covers the type of the entity is selected. -/
theorem selected_consumes_text :
    ∃ (media range : MediaType) (selection : Selection Unit),
      (storeRequest "text/csv; header=absent".toList).contentType = .ok (some media) ∧
        media.isConcrete = true ∧
        MediaType.read "text/*".toList = .ok range ∧
        select {} [storing [.json], storing [.json, range]]
          (storeRequest "text/csv; header=absent".toList) = .ok (some selection) ∧
        (∀ consumed ∈ selection.operation.consumes, ¬consumed.IsMistakenFor media) ∧
        ∃ consumed ∈ selection.operation.consumes,
          consumed.essence = media.essence ∨ consumed.Covers media := by
  let request := storeRequest "text/csv; header=absent".toList
  let media : MediaType :=
    ⟨"text".toList, "csv".toList, none, [("header".toList, "absent".toList)],
      "; header=absent".toList⟩
  let range : MediaType := .plain "text".toList MediaType.star
  let selection : Selection Unit := ⟨storing [.json, range], ⟨.wildcard, .wildcard⟩⟩
  have typed : request.contentType = .ok (some media) := rfl
  have concrete : media.isConcrete = true := rfl
  have selected : select {} [storing [.json], storing [.json, range]] request =
      .ok (some selection) := rfl
  have unmistaken : ∀ consumed ∈ selection.operation.consumes,
      ¬consumed.IsMistakenFor media := by
    intro consumed present mistaken
    have listed : consumed = .json ∨ consumed = range := by simpa [selection, storing] using present
    rcases listed with rfl | rfl
    · -- another kind, and no open one
      cases mistaken with
      | suffix kind => exact absurd kind (by decide)
      | suffixedRange _ subtype => exact absurd subtype (by decide)
      | openKind kind => exact absurd kind (by decide)
    · -- a range of its kind, without a suffix
      cases mistaken with
      | suffix _ subtype => exact absurd subtype (by decide)
      | suffixedRange _ _ suffixed => exact suffixed rfl
      | openKind kind => exact absurd kind (by decide)
  refine ⟨media, range, selection, typed, concrete, rfl, selected, unmistaken, ?_⟩
  rcases selected_consumes typed concrete selected unmistaken with none | found
  · cases none
  · exact found

/-- A declared type with another suffix than that of the entity is taken for its type. -/
theorem selected_not_consumes :
    ∃ (declared media : MediaType) (selection : Selection Unit),
      MediaType.read "application/problem+json".toList = .ok declared ∧
        (storeRequest "application/problem+xml".toList).contentType = .ok (some media) ∧
        media.isConcrete = true ∧
        select {} [storing [declared]] (storeRequest "application/problem+xml".toList) =
          .ok (some selection) ∧
        ¬(selection.operation.consumes = [] ∨
          ∃ consumed ∈ selection.operation.consumes,
            consumed.essence = media.essence ∨ consumed.Covers media) := by
  let declared : MediaType :=
    { MediaType.plain "application".toList "problem".toList with suffix := some "json".toList }
  let media : MediaType :=
    { MediaType.plain "application".toList "problem".toList with suffix := some "xml".toList }
  refine ⟨declared, media, ⟨storing [declared], ⟨.wildcard, .wildcard⟩⟩, rfl, rfl, rfl, rfl, ?_⟩
  rintro (none | ⟨consumed, present, same | covers⟩)
  · cases none
  · obtain rfl : consumed = declared := by simpa [storing] using present
    exact absurd same (by decide)
  · obtain rfl : consumed = declared := by simpa [storing] using present
    exact absurd covers.2.1 (by decide)

end Dispatch
end ResourceRouting
