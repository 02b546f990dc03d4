import Mathlib.Data.List.DropRight
import Mathlib.Data.List.TakeWhile
import ResourceRouting.Text

/-!
# Dividing texts at a mark

A text without the mark that stands before another one goes into the first piece of it, and a text
is cut at its first mark.  The pieces of a text are the texts without the mark that it is joined
from.  Of a blank text nothing is left without the white space at its ends.
-/

namespace ResourceRouting
namespace Text

variable {mark : Char}

theorem pieces_ne_nil (mark : Char) (text : Text) : pieces mark text ≠ [] := by
  cases text with
  | nil => exact List.cons_ne_nil _ _
  | cons character rest =>
      rw [pieces]
      split
      · exact List.cons_ne_nil _ _
      · split <;> exact List.cons_ne_nil _ _

theorem pieces_cons_of_ne {character : Char} (other : character ≠ mark) (rest : Text) :
    pieces mark (character :: rest) = (pieces mark rest).modifyHead (character :: ·) := by
  rw [pieces, if_neg other]
  cases divided : pieces mark rest with
  | nil => exact absurd divided (pieces_ne_nil mark rest)
  | cons first others => rfl

/-- A text without the mark stands before the first piece of what follows. -/
theorem pieces_append {front : Text} (unmarked : mark ∉ front) (rest : Text) :
    pieces mark (front ++ rest) = (pieces mark rest).modifyHead (front ++ ·) := by
  induction front with
  | nil =>
      rw [List.nil_append]
      cases pieces mark rest <;> rfl
  | cons character front ih =>
      have other := List.ne_of_not_mem_cons unmarked
      rw [List.cons_append, pieces_cons_of_ne other.symm,
        ih (List.not_mem_of_not_mem_cons unmarked), List.modifyHead_modifyHead]
      rfl

theorem pieces_of_not_mem {text : Text} (unmarked : mark ∉ text) : pieces mark text = [text] := by
  have whole := pieces_append unmarked []
  rwa [List.append_nil, pieces, List.modifyHead_cons, List.append_nil] at whole

theorem pieces_append_cons {text : Text} (unmarked : mark ∉ text) (rest : Text) :
    pieces mark (text ++ mark :: rest) = text :: pieces mark rest := by
  rw [pieces_append unmarked, pieces, if_pos rfl, List.modifyHead_cons, List.append_nil]

theorem pieces_cons_self (rest : Text) : pieces mark (mark :: rest) = [] :: pieces mark rest := by
  rw [pieces, if_pos rfl]

/-- No piece holds the mark. -/
theorem not_mem_of_mem_pieces {text part : Text} (present : part ∈ pieces mark text) :
    mark ∉ part := by
  induction text generalizing part with
  | nil =>
      obtain rfl := List.mem_singleton.mp present
      exact List.not_mem_nil
  | cons character rest ih =>
      by_cases marked : character = mark
      · subst marked
        rw [pieces_cons_self] at present
        rcases List.mem_cons.mp present with rfl | later
        · exact List.not_mem_nil
        · exact ih later
      · rw [pieces_cons_of_ne marked] at present
        cases divided : pieces mark rest with
        | nil => exact absurd divided (pieces_ne_nil mark rest)
        | cons first others =>
            rw [divided] at present ih
            rcases List.mem_cons.mp present with rfl | later
            · rw [List.mem_cons, not_or]
              exact ⟨Ne.symm marked, ih (List.mem_cons_self ..)⟩
            · exact ih (List.mem_cons_of_mem _ later)

/-- Joined by the mark, the pieces are the text again. -/
theorem intercalate_pieces (text : Text) : [mark].intercalate (pieces mark text) = text := by
  induction text with
  | nil => rfl
  | cons character rest ih =>
      by_cases marked : character = mark
      · subst marked
        rw [pieces_cons_self, List.intercalate_cons_of_ne_nil (pieces_ne_nil _ rest), ih]
        rfl
      · rw [pieces_cons_of_ne marked]
        cases divided : pieces mark rest with
        | nil => exact absurd divided (pieces_ne_nil mark rest)
        | cons first others =>
            rw [divided] at ih
            rw [List.modifyHead_cons, ← ih]
            cases others with
            | nil => rfl
            | cons second others => simp only [List.intercalate_cons_cons, List.cons_append]

/-- The pieces of a text are what it was joined from. -/
theorem pieces_eq_iff {text : Text} {parts : List Text} :
    pieces mark text = parts ↔
      parts ≠ [] ∧ (∀ part ∈ parts, mark ∉ part) ∧ [mark].intercalate parts = text := by
  constructor
  · rintro rfl
    exact ⟨pieces_ne_nil mark text, fun _ => not_mem_of_mem_pieces, intercalate_pieces text⟩
  · rintro ⟨nonempty, unmarked, rfl⟩
    induction parts with
    | nil => exact absurd rfl nonempty
    | cons part parts ih =>
        have own := unmarked part (List.mem_cons_self ..)
        cases parts with
        | nil =>
            rw [List.intercalate_singleton]
            exact pieces_of_not_mem own
        | cons next others =>
            rw [List.intercalate_cons_cons, List.append_assoc, List.singleton_append,
              pieces_append_cons own,
              ih (List.cons_ne_nil _ _) fun later present =>
                unmarked later (List.mem_cons_of_mem _ present)]

/-- A text without the mark stands before what a cut finds in what follows. -/
theorem cut_append_of_not_mem {front : Text} (unmarked : mark ∉ front) (rest : Text) :
    cut mark (front ++ rest) = (cut mark rest).map (Prod.map (front ++ ·) id) := by
  induction front with
  | nil =>
      rw [List.nil_append]
      cases cut mark rest <;> rfl
  | cons character front ih =>
      have other := List.ne_of_not_mem_cons unmarked
      rw [List.cons_append, cut, if_neg other.symm,
        ih (List.not_mem_of_not_mem_cons unmarked), Option.map_map]
      rfl

theorem cut_of_not_mem {text : Text} (unmarked : mark ∉ text) : cut mark text = none := by
  have whole := cut_append_of_not_mem unmarked []
  rwa [List.append_nil] at whole

theorem cut_append_cons {front : Text} (unmarked : mark ∉ front) (rest : Text) :
    cut mark (front ++ mark :: rest) = some (front, rest) := by
  rw [cut_append_of_not_mem unmarked, cut, if_pos rfl, Option.map_some, Prod.map, List.append_nil]
  rfl

/-- Nothing is left of a text without the white space at its ends if and only if it is blank. -/
theorem trim_eq_nil_iff {text : Text} :
    trim text = [] ↔ ∀ character ∈ text, Unicode.isBlank character = true := by
  have whole := List.takeWhile_append_dropWhile (p := Unicode.isBlank) (l := text)
  rw [trim, trimEnd, trimStart, List.reverse_eq_nil_iff, List.dropWhile_eq_nil_iff]
  simp only [List.mem_reverse]
  constructor
  · intro blank character present
    rw [← whole, List.mem_append] at present
    rcases present with front | behind
    · exact List.all_eq_true.mp List.all_takeWhile character front
    · exact blank character behind
  · intro blank character present
    exact blank character ((List.dropWhile_suffix _).subset present)

theorem trim_ne_nil_iff {text : Text} :
    trim text ≠ [] ↔ ∃ character ∈ text, Unicode.isBlank character = false := by
  simp [Ne, trim_eq_nil_iff]

theorem mem_of_mem_trim {text : Text} {character : Char} (present : character ∈ trim text) :
    character ∈ text := by
  rw [trim, trimEnd, List.mem_reverse] at present
  have behind := List.mem_reverse.mp ((List.dropWhile_suffix _).subset present)
  exact (List.dropWhile_suffix _).subset behind

/-- What was trimmed has no white space at its ends. -/
theorem trim_trim (text : Text) : trim (trim text) = trim text := by
  have begins : trimStart (trimStart text) = trimStart text := List.dropWhile_idempotent _ _
  have front : trimEnd (trimStart text) <+: trimStart text := List.rdropWhile_prefix _ _
  -- The first character that is kept at the end was kept at the start.
  have start : trimStart (trimEnd (trimStart text)) = trimEnd (trimStart text) := by
    apply List.dropWhile_eq_self_iff.mpr
    intro filled
    rw [front.getElem filled]
    exact List.dropWhile_eq_self_iff.mp begins _
  calc
    trim (trim text) = trimEnd (trimStart (trimEnd (trimStart text))) := rfl
    _ = trimEnd (trimEnd (trimStart text)) := by rw [start]
    _ = trimEnd (trimStart text) := List.rdropWhile_idempotent _ _

end Text
end ResourceRouting
