import ResourceRouting.Proofs.Dispatch.ContentType

/-!
# Refused media types

A client refuses a media type by listing it with the quality zero.  Such a range is left out before
anything is negotiated, so it takes nothing away from the other ranges: a refused type is served if
one of them stands for it, and only then.
-/

namespace ResourceRouting

namespace MediaType

/-- A header refuses a media type: it lists the type with the quality zero, and never with more. -/
structure Refuses (text : Text) (refused : MediaType) : Prop where
  /-- The type is among the pieces of the header. -/
  listed : ∃ piece ∈ headerPieces text, read piece = .ok refused
  /-- The quality of the type is zero. -/
  zero : refused.quality = .units 0 ∨ refused.quality = .negativeZero
  /-- The type is no range of several types. -/
  concrete : refused.isConcrete = true
  /-- No range that is accepted is that of the type alone. -/
  unaccepted : ∀ range, Accepts (some text) range → range.essence ≠ refused.essence

end MediaType

namespace Dispatch

open Negotiation

variable {σ : Type}

/-- A pair settles on a type that is produced, or on the range of the client if that is a type. -/
theorem mediaType?_cases
    {pairing : Pairing}
    {media : MediaType}
    (settled : pairing.mediaType? = some media) :
    (media = pairing.produced ∧ media.isConcrete = true) ∨
      media = pairing.range.withoutParameters := by
  rw [Pairing.mediaType?] at settled
  split at settled
  · rename_i concrete
    cases settled
    exact .inl ⟨rfl, concrete⟩
  · split at settled
    · cases settled
      exact .inr rfl
    · cases settled

/-- What a selected operation is said to produce it declares, or it declares nothing. -/
theorem mem_orWildcard_of_select
    {settings : DispatchSettings}
    {operations : List (Operation σ)}
    {request : Request}
    {selection : Selection σ}
    (selected : select settings operations request = .ok (some selection)) :
    selection.pairing.produced ∈ Operation.orWildcard selection.operation.produces := by
  obtain ⟨_, _, _, _, best⟩ := isBest_of_select selected
  exact best.negotiated.isPair.written

/-- A type among those that stand for what is produced was declared, as the wildcard is no type. -/
theorem mem_of_mem_orWildcard
    {types : List MediaType}
    {media : MediaType}
    (present : media ∈ Operation.orWildcard types)
    (concrete : media.isConcrete = true) :
    media ∈ types := by
  rw [Operation.orWildcard] at present
  split at present
  · rw [List.mem_singleton.mp present] at concrete
    cases concrete
  · exact present

/--
A refused type is negotiated only if the operation declares to produce it and another range that the
client accepts covers it, or is mistaken for one that does.
-/
theorem covers_of_refused
    {settings : DispatchSettings}
    {operations : List (Operation σ)}
    {request : Request}
    {text : Text}
    {refused media : MediaType}
    {selection : Selection σ}
    (given : request.headers.plain? Headers.accept = some text)
    (refuses : MediaType.Refuses text refused)
    (selected : select settings operations request = .ok (some selection))
    (settled : selection.pairing.mediaType? = some media)
    (same : media.essence = refused.essence) :
    media ∈ selection.operation.produces ∧
      MediaType.Accepts (some text) selection.pairing.range ∧
      selection.pairing.range.essence ≠ refused.essence ∧
      (selection.pairing.range.Covers media ∨ selection.pairing.range.IsMistakenFor media) := by
  obtain ⟨accepts, fits⟩ := accepts_of_select selected
  rw [given] at accepts
  have other := refuses.unaccepted _ accepts
  rcases mediaType?_cases settled with ⟨rfl, concrete⟩ | rfl
  · refine ⟨mem_of_mem_orWildcard (mem_orWildcard_of_select selected) concrete, accepts, other, ?_⟩
    have overlaps := (MediaType.isCompatible_comm _ _).trans fits
    rcases MediaType.isCompatible_cases concrete overlaps with alike | covers | mistaken
    · exact absurd (alike.trans same) other
    · exact .inl covers
    · exact .inr mistaken
  · -- The range itself would be that of the refused type.
    exact absurd same other

/-- Plain text as it is declared. -/
def bareText : MediaType := .plain "text".toList "plain".toList

/-- Plain text as it is refused. -/
def refusedText : MediaType :=
  { bareText with parameters := [("q".toList, "0".toList)], tail := ";q=0".toList }

/-- An operation that answers with plain text. -/
def writing : Operation Unit where
  method := .get
  produces := [bareText]
  handler _ state := (.ok (Response.ok.withText "hi".toList), state)

theorem refuses_refusedText
    {text : Text}
    {range : MediaType}
    (listed : "text/plain;q=0".toList ∈ MediaType.headerPieces text)
    (accepted : MediaType.accepted (some text) = .ok [range])
    (other : range.essence ≠ refusedText.essence) :
    MediaType.Refuses text refusedText where
  listed := ⟨_, listed, rfl⟩
  zero := .inl rfl
  concrete := rfl
  unaccepted := by
    intro found accepts
    obtain rfl := List.mem_singleton.mp ((MediaType.mem_accepted_iff accepted).mpr accepts)
    exact other

/-- A header that refuses plain text, but accepts every kind of text. -/
def otherText : Text :=
  "text/*;q=0.3, text/plain;q=0".toList

/-- Plain text is served to a client that refuses it for the range of all kinds of text. -/
theorem covers_of_refused_text :
    ∃ selection : Selection Unit,
      (acceptRequest otherText).headers.plain? Headers.accept = some otherText ∧
        MediaType.Refuses otherText refusedText ∧
        select {} [writing] (acceptRequest otherText) = .ok (some selection) ∧
        selection.pairing.mediaType? = some bareText ∧
        bareText.essence = refusedText.essence ∧
        bareText ∈ selection.operation.produces ∧
        MediaType.Accepts (some otherText) selection.pairing.range ∧
        selection.pairing.range.essence ≠ refusedText.essence ∧
        (selection.pairing.range.Covers bareText ∨
          selection.pairing.range.IsMistakenFor bareText) := by
  let range : MediaType :=
    ⟨"text".toList, MediaType.star, none, [("q".toList, "0.3".toList)], ";q=0.3".toList⟩
  let selection : Selection Unit := ⟨writing, ⟨range, bareText⟩⟩
  have refuses : MediaType.Refuses otherText refusedText :=
    @refuses_refusedText _ range (by decide) rfl (by decide)
  have selected : select {} [writing] (acceptRequest otherText) = .ok (some selection) := rfl
  exact ⟨selection, rfl, refuses, selected, rfl, rfl,
    covers_of_refused rfl refuses selected rfl rfl⟩

/-- A type that a client refuses is negotiated all the same if the client accepts all types. -/
theorem selected_refused :
    ∃ selection : Selection Unit,
      (acceptRequest "*/*, text/plain;q=0".toList).headers.plain? Headers.accept =
          some "*/*, text/plain;q=0".toList ∧
        MediaType.Refuses "*/*, text/plain;q=0".toList refusedText ∧
        select {} [writing] (acceptRequest "*/*, text/plain;q=0".toList) =
          .ok (some selection) ∧
        selection.pairing.mediaType? = some bareText ∧
        bareText.essence = refusedText.essence := by
  have refuses : MediaType.Refuses "*/*, text/plain;q=0".toList refusedText :=
    @refuses_refusedText _ .wildcard (by decide) rfl (by decide)
  exact ⟨⟨writing, ⟨.wildcard, bareText⟩⟩, rfl, refuses, rfl, rfl, rfl⟩

end Dispatch
end ResourceRouting
