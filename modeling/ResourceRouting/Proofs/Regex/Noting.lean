import ResourceRouting.Proofs.Regex.Running

/-!
# How long noted texts are

The matcher only moves on in a text, and a group notes a part of what is ahead where it begins.  No
noted text is longer than what is ahead where the matcher starts.
-/

namespace ResourceRouting
namespace Regex

/-- A goal notes no text longer than a bound from any place with no more than that ahead. -/
def NotesWithin (size : Nat) (goal : Goal) : Prop :=
  ∀ place notes, place.ahead.length ≤ size → goal place = some notes →
    ∀ entry ∈ notes, entry.2.length ≤ size

/-- What reaches goals whose notes are within a bound has its own notes within the bound. -/
def KeepsWithin (body : Goal → Goal) : Prop :=
  ∀ size goal, NotesWithin size goal → NotesWithin size (body goal)

theorem eq_some_of_prefer
    {greedy : Bool}
    {more fewer : Unit → Option Notes}
    {notes : Notes}
    (found : prefer greedy more fewer = some notes) :
    more () = some notes ∨ fewer () = some notes := by
  unfold prefer orElse at found
  split at found <;> split at found <;> simp_all

theorem eq_some_of_orElse
    {first second : Unit → Option Notes}
    {notes : Notes}
    (found : orElse first second = some notes) :
    first () = some notes ∨ second () = some notes :=
  @eq_some_of_prefer true _ _ _ found

section Repetition

variable {body : Goal → Goal} {size : Nat} {goal : Goal}

theorem KeepsWithin.again
    (keeps : KeepsWithin body)
    (within : NotesWithin size goal)
    (greedy : Bool) :
    NotesWithin size (again body greedy goal) := by
  intro place
  -- Along what is ahead: a repetition goes on only with less ahead.
  induction length : place.ahead.length using Nat.strongRecOn generalizing place with
  | ind length ih =>
      subst length
      intro notes fits found
      rw [Regex.again] at found
      rcases eq_some_of_prefer found with more | fewer
      · refine keeps size _ ?_ place notes fits more
        intro next others nextFits further
        dsimp only at further
        split at further
        · rename_i shorter
          exact ih _ shorter next rfl others nextFits further
        · cases further
      · exact within place notes fits fewer

theorem KeepsWithin.onceOrMore
    (keeps : KeepsWithin body)
    (within : NotesWithin size goal)
    (greedy : Bool) :
    NotesWithin size (onceOrMore body greedy goal) := by
  intro place notes fits found
  refine keeps size _ ?_ place notes fits found
  intro next others nextFits further
  dsimp only at further
  split at further
  · exact keeps.again within greedy next others nextFits further
  · exact within next others nextFits further

theorem KeepsWithin.exactly
    (keeps : KeepsWithin body)
    (within : NotesWithin size goal)
    (count : Nat) :
    NotesWithin size (exactly body count goal) := by
  induction count generalizing goal with
  | zero => exact within
  | succ count ih => exact ih (keeps size goal within)

theorem KeepsWithin.atMost
    (keeps : KeepsWithin body)
    (within : NotesWithin size goal)
    (greedy : Bool)
    (count : Nat) :
    NotesWithin size (atMost body greedy goal count) := by
  induction count with
  | zero => exact within
  | succ count ih =>
      intro place notes fits found
      rcases eq_some_of_prefer found with more | fewer
      · exact keeps size _ ih place notes fits more
      · exact within place notes fits fewer

end Repetition

/-- A note on a group is added to the notes or left out. -/
theorem mem_of_mem_note
    {index : Nat}
    {text : Text}
    {notes : Notes}
    {entry : Nat × Text}
    (present : entry ∈ note index text notes) :
    entry = (index, text) ∨ entry ∈ notes := by
  unfold note at present
  split at present
  · exact .inr present
  · exact List.mem_cons.mp present

/-- Running an expression keeps the notes within any bound on what is ahead. -/
theorem Expr.run_keepsWithin (expr : Expr) : KeepsWithin expr.run := by
  induction expr with
  | empty => exact fun _ _ within => within
  | chars set =>
      intro size goal within place notes fits found
      obtain ⟨next, passed, further⟩ := Option.bind_eq_some_iff.mp found
      obtain ⟨character, rest, ahead, _, rfl⟩ := Place.pass?_eq_some_iff.mp passed
      rw [ahead, List.length_cons] at fits
      exact within _ notes (Nat.le_of_succ_le fits) further
  | anchor condition =>
      intro size goal within place notes fits found
      rw [run] at found
      split at found
      · exact within place notes fits found
      · cases found
  | seq first second firstKeeps secondKeeps =>
      exact fun size goal within => firstKeeps size _ (secondKeeps size goal within)
  | alt first second firstKeeps secondKeeps =>
      intro size goal within place notes fits found
      rcases eq_some_of_orElse found with found | found
      · exact firstKeeps size goal within place notes fits found
      · exact secondKeeps size goal within place notes fits found
  | group index inner keeps =>
      intro size goal within place notes fits found
      refine keeps size _ ?_ place notes fits found
      intro next others nextFits further entry present
      obtain ⟨rest, reached, rfl⟩ := Option.map_eq_some_iff.mp further
      rcases mem_of_mem_note present with rfl | earlier
      · exact Nat.le_trans (List.length_take_le' _ _) fits
      · exact within next rest nextFits reached entry earlier
  | repeated least most greedy inner keeps =>
      intro size goal within
      cases most with
      | some most => exact keeps.exactly (keeps.atMost within greedy (most - least)) least
      | none =>
          cases least with
          | succ least => exact keeps.exactly (keeps.onceOrMore within greedy) least
          | zero =>
              intro place notes fits found
              rcases eq_some_of_prefer found with more | fewer
              · exact keeps.onceOrMore within greedy place notes fits more
              · exact within place notes fits fewer

theorem foldr_run_keepsWithin (exprs : List Expr) :
    KeepsWithin fun goal => exprs.foldr Expr.run goal := by
  intro size goal within
  induction exprs with
  | nil => exact within
  | cons expr exprs ih => exact expr.run_keepsWithin size _ ih

theorem notesWithin_atEnd (size : Nat) : NotesWithin size atEnd := by
  intro place notes _ found entry present
  unfold atEnd at found
  split at found
  · cases found
    cases present
  · cases found

/-- No text that a search notes is longer than the text that is searched. -/
theorem length_le_of_search?
    {regex : Regex}
    {text : Text}
    {notes : Notes}
    (found : regex.search? text = some notes) :
    ∀ entry ∈ notes, entry.2.length ≤ text.length := by
  obtain ⟨place, reached, matched⟩ := List.exists_of_findSome?_eq_some found
  have position := (Place.index_add_length reached).2
  rw [matchAt?, Expr.runShared_eq_run] at matched
  have fits : place.ahead.length ≤ text.length := by
    simp only [Place.start] at position
    omega
  exact regex.expr.run_keepsWithin text.length _ (by rintro _ _ _ ⟨⟩ _ ⟨⟩) place notes fits matched

/--
Behind a first character of the whole expression no noted text is longer than what follows this
character in the text that is searched.
-/
theorem exists_cons_of_search?_char
    {character : Char}
    {others : List Expr}
    {text : Text}
    {notes : Notes}
    (found : (⟨Reader.wholeExpr (.char character :: others)⟩ : Regex).search? text = some notes) :
    ∃ rest, text = character :: rest ∧ ∀ entry ∈ notes, entry.2.length ≤ rest.length := by
  rw [search?_wholeExpr, List.foldr_cons] at found
  obtain ⟨next, passed, further⟩ := Option.bind_eq_some_iff.mp found
  obtain ⟨first, rest, ahead, member, rfl⟩ := Place.pass?_eq_some_iff.mp passed
  obtain rfl := (CharSet.contains_single _ _).mp member
  have within := foldr_run_keepsWithin others rest.length atEnd (notesWithin_atEnd _)
  exact ⟨rest, ahead, within _ notes (Nat.le_refl _) further⟩

end Regex
end ResourceRouting
