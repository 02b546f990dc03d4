import Mathlib.Data.List.Forall2
import ResourceRouting.Proofs.MediaType.Preference
import ResourceRouting.Proofs.Text

/-!
# What an `Accept` header stands for

A header is divided at its commas, and each piece that is not blank is read as a media range.  It
stands for the usable ones among these ranges in order of preference, or for what is wrong with the
first piece that is none.
-/

namespace ResourceRouting
namespace MediaType

/-- All texts are media types exactly if each of them is one. -/
theorem readAll_eq_ok_iff {texts : List Text} {types : List MediaType} :
    readAll texts = .ok types ↔
      List.Forall₂ (fun text media => read text = .ok media) texts types := by
  induction texts generalizing types with
  | nil =>
      rw [List.forall₂_nil_left_iff, readAll, Except.ok.injEq]
      exact eq_comm
  | cons text texts ih =>
      rw [readAll]
      constructor
      · intro all
        cases first : read text with
        | error fault =>
            rw [first] at all
            cases all
        | ok media =>
            rw [first] at all
            cases others : readAll texts with
            | error fault =>
                rw [others] at all
                cases all
            | ok more =>
                rw [others] at all
                cases all
                exact .cons first (ih.mp others)
      · rintro (_ | ⟨first, others⟩)
        rw [first, ih.mpr others]
        rfl

/-- The first text that is no media type is what is wrong with all of them. -/
theorem readAll_eq_error_iff {texts : List Text} {error : MediaTypeError} :
    readAll texts = .error error ↔
      ∃ before text after, texts = before ++ text :: after ∧
        (∀ earlier ∈ before, ∃ media, read earlier = .ok media) ∧ read text = .error error := by
  induction texts with
  | nil => simp [readAll]
  | cons text texts ih =>
      rw [readAll]
      cases first : read text with
      | error fault =>
          constructor
          · intro failed
            cases failed
            exact ⟨[], text, texts, rfl, by simp, first⟩
          · rintro ⟨_ | ⟨earlier, before⟩, found, after, split, valid, fault⟩
            · cases split
              rw [first] at fault
              cases fault
              rfl
            · cases split
              obtain ⟨media, own⟩ := valid text (List.mem_cons_self ..)
              rw [own] at first
              cases first
      | ok media =>
          have others : (readAll texts).map (media :: ·) = .error error ↔
              readAll texts = .error error := by
            cases readAll texts <;> simp [Except.map]
          refine others.trans (ih.trans ⟨?_, ?_⟩)
          · rintro ⟨before, found, after, rfl, valid, fault⟩
            refine ⟨text :: before, found, after, rfl, ?_, fault⟩
            intro earlier present
            rcases List.mem_cons.mp present with rfl | later
            · exact ⟨media, first⟩
            · exact valid earlier later
          · rintro ⟨_ | ⟨earlier, before⟩, found, after, split, valid, fault⟩
            · cases split
              rw [first] at fault
              cases fault
            · cases split
              exact ⟨before, found, after, rfl,
                fun one present => valid one (List.mem_cons_of_mem _ present), fault⟩

/--
A header lists what stands between its commas, without the white space around it; blanks are passed
over.
-/
def Lists (text : Text) (pieces : List Text) : Prop :=
  ∃ parts : List Text, parts ≠ [] ∧ (∀ part ∈ parts, ',' ∉ part) ∧
    [','].intercalate parts = text ∧ pieces = (parts.map Text.trim).filter (· ≠ [])

theorem lists_iff {text : Text} {pieces : List Text} :
    Lists text pieces ↔ headerPieces text = pieces := by
  have passed : headerPieces text = ((Text.pieces ',' text).map Text.trim).filter (· ≠ []) := by
    apply List.filter_congr
    intro part _
    cases part <;> rfl
  rw [passed]
  constructor
  · rintro ⟨parts, nonempty, commaless, joined, rfl⟩
    rw [Text.pieces_eq_iff.mpr ⟨nonempty, commaless, joined⟩]
  · rintro rfl
    obtain ⟨nonempty, commaless, joined⟩ := Text.pieces_eq_iff.mp (rfl : Text.pieces ',' text = _)
    exact ⟨_, nonempty, commaless, joined, rfl⟩

/-- What an `Accept` header stands for: ranges in order of preference, or what is wrong with it. -/
inductive StandsFor : Option Text → Except MediaTypeError (List MediaType) → Prop
  /-- Without a header every media type is accepted. -/
  | absent : StandsFor none (.ok [wildcard])
  /-- A blank header accepts every media type. -/
  | blank
      {text : Text}
      (blank : ∀ character ∈ text, Unicode.isBlank character = true) :
      StandsFor (some text) (.ok [wildcard])
  /-- The first piece that is no media range is what is wrong with the header. -/
  | invalid
      {text piece : Text}
      {before after : List Text}
      {error : MediaTypeError}
      (nonblank : ∃ character ∈ text, Unicode.isBlank character = false)
      (lists : Lists text (before ++ piece :: after))
      (valid : ∀ earlier ∈ before, ∃ range, read earlier = .ok range)
      (fault : read piece = .error error) :
      StandsFor (some text) (.error error)
  /-- Of the ranges that are listed, the usable ones stand in order of preference. -/
  | ranked
      {text : Text}
      {pieces : List Text}
      {listed ranked : List MediaType}
      (nonblank : ∃ character ∈ text, Unicode.isBlank character = false)
      (lists : Lists text pieces)
      (valid : List.Forall₂ (fun piece range => read piece = .ok range) pieces listed)
      (ranking : IsRanking (listed.filter (IsUsable ·)) ranked) :
      StandsFor (some text) (.ok ranked)

/-- What is listed in a header that is not blank is read, and what is usable of it is sorted. -/
theorem accepted_of_lists
    {text : Text}
    {pieces : List Text}
    (nonblank : Text.trim text ≠ [])
    (lists : Lists text pieces) :
    accepted (some text) =
      (readAll pieces).map fun listed => sortRanges (listed.filter (IsUsable ·)) := by
  rw [accepted, if_neg (by rwa [List.isEmpty_iff]), lists_iff.mp lists]
  simp only [filter_isUsable]

/--
What is accepted is what the header stands for, and the preference by which the usable ranges are
sorted is a total preorder on them, which never falls back on what does not compare.
-/
theorem accepted_eq_iff_standsFor
    (header : Option Text)
    (result : Except MediaTypeError (List MediaType)) :
    (accepted header = result ↔ StandsFor header result) ∧
      ∀ listed : List MediaType, IsTotalOn (listed.filter (·.quality.isPositive)) := by
  refine ⟨⟨?_, ?_⟩, fun listed => ?_⟩
  · rintro rfl
    cases header with
    | none => exact .absent
    | some text =>
        by_cases empty : Text.trim text = []
        · rw [accepted, if_pos (List.isEmpty_iff.mpr empty)]
          exact .blank (Text.trim_eq_nil_iff.mp empty)
        · have nonblank := Text.trim_ne_nil_iff.mp empty
          have lists : Lists text (headerPieces text) := lists_iff.mpr rfl
          rw [accepted_of_lists empty lists]
          cases all : readAll (headerPieces text) with
          | error fault =>
              obtain ⟨before, piece, after, split, valid, own⟩ := readAll_eq_error_iff.mp all
              rw [split] at lists
              exact .invalid nonblank lists valid own
          | ok listed =>
              exact .ranked nonblank lists (readAll_eq_ok_iff.mp all)
                (isRanking_sortRanges (isUsable_of_mem_filter listed))
  · intro stands
    cases stands with
    | absent => rfl
    | blank blank =>
        rw [accepted, if_pos (List.isEmpty_iff.mpr (Text.trim_eq_nil_iff.mpr blank))]
    | invalid nonblank lists valid fault =>
        rw [accepted_of_lists (Text.trim_ne_nil_iff.mpr nonblank) lists,
          readAll_eq_error_iff.mpr ⟨_, _, _, rfl, valid, fault⟩]
        rfl
    | @ranked _ _ listed _ nonblank lists valid ranking =>
        have sorted := isRanking_sortRanges (isUsable_of_mem_filter listed)
        rw [accepted_of_lists (Text.trim_ne_nil_iff.mpr nonblank) lists,
          readAll_eq_ok_iff.mpr valid, ← sorted.unique ranking]
        rfl
  · rw [← filter_isUsable]
    exact isTotalOn_of_isUsable (isUsable_of_mem_filter listed)

/-- A range of quality zero is left out, and the most specific one of the others comes first. -/
example :
    (accepted (some "*/*, text/plain;q=0, text/html".toList)).map (·.map essence) =
      .ok ["text/html".toList, "*/*".toList] := by
  rfl

end MediaType
end ResourceRouting
