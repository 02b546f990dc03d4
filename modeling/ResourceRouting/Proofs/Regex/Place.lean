import ResourceRouting.Regex.Place

/-!
# Places onward

The places that can be reached from a place by moving on in the text.  Each of them is determined
by its index.
-/

namespace ResourceRouting
namespace Regex
namespace Place

/-- The place behind the next character. -/
def next (place : Place) (character : Char) (rest : Text) : Place :=
  ⟨place.index + 1, some character, rest⟩

@[simp]
theorem index_next (place : Place) (character : Char) (rest : Text) :
    (place.next character rest).index = place.index + 1 := rfl

@[simp]
theorem ahead_next (place : Place) (character : Char) (rest : Text) :
    (place.next character rest).ahead = rest := rfl

theorem onward_of_nil {place : Place} (ended : place.ahead = []) : place.onward = [place] := by
  obtain ⟨index, last, ahead⟩ := place
  subst ended
  rfl

/-- The places onward are the place itself and those from the next one. -/
theorem onward_of_cons
    {place : Place}
    {character : Char}
    {rest : Text}
    (ahead : place.ahead = character :: rest) :
    place.onward = place :: (place.next character rest).onward := by
  obtain ⟨index, last, text⟩ := place
  subst ahead
  rfl

/-- A place onward is the place itself or lies behind the next character. -/
theorem mem_onward_iff {place later : Place} :
    later ∈ place.onward ↔
      later = place ∨
        ∃ character rest, place.ahead = character :: rest ∧
          later ∈ (place.next character rest).onward := by
  cases ahead : place.ahead with
  | nil => simp [onward_of_nil ahead]
  | cons character rest =>
      rw [onward_of_cons ahead, List.mem_cons]
      constructor
      · rintro (same | behind)
        · exact .inl same
        · exact .inr ⟨character, rest, rfl, behind⟩
      · rintro (same | ⟨other, others, equal, behind⟩)
        · exact .inl same
        · cases equal
          exact .inr behind

@[simp]
theorem self_mem_onward (place : Place) : place ∈ place.onward :=
  mem_onward_iff.mpr (.inl rfl)

/--
Induction along the text ahead of a place: a property holds of a place if it holds of the place
behind the next character.
-/
theorem inductionOn
    {motive : Place → Prop}
    (place : Place)
    (ended : ∀ place : Place, place.ahead = [] → motive place)
    (step : ∀ (place : Place) (character : Char) (rest : Text),
      place.ahead = character :: rest → motive (place.next character rest) → motive place) :
    motive place := by
  obtain ⟨index, last, text⟩ := place
  induction text generalizing index last with
  | nil => exact ended _ rfl
  | cons character rest ih => exact step _ character rest rfl (ih _ _)

/-- Moving on twice is moving on. -/
theorem mem_onward_trans
    {first second third : Place}
    (reached : second ∈ first.onward)
    (further : third ∈ second.onward) :
    third ∈ first.onward := by
  induction first using inductionOn with
  | ended place ahead =>
      rw [onward_of_nil ahead, List.mem_singleton] at reached
      rwa [reached] at further
  | step place character rest ahead ih =>
      rw [onward_of_cons ahead, List.mem_cons] at reached
      rcases reached with same | behind
      · rwa [same] at further
      · rw [onward_of_cons ahead]
        exact List.mem_cons_of_mem _ (ih behind)

/-- Moving on leaves the sum of what is passed and what is ahead. -/
theorem index_add_length
    {place later : Place}
    (reached : later ∈ place.onward) :
    place.index ≤ later.index ∧
      later.index + later.ahead.length = place.index + place.ahead.length := by
  induction place using inductionOn with
  | ended place ahead =>
      rw [onward_of_nil ahead, List.mem_singleton] at reached
      rw [reached]
      exact ⟨Nat.le_refl _, rfl⟩
  | step place character rest ahead ih =>
      rw [onward_of_cons ahead, List.mem_cons] at reached
      rcases reached with same | behind
      · rw [same]
        exact ⟨Nat.le_refl _, rfl⟩
      · have moved := ih behind
        simp only [index_next, ahead_next] at moved
        rw [ahead, List.length_cons]
        omega

/-- A place onward stands among the places at its distance. -/
theorem getElem?_onward
    {place later : Place}
    (reached : later ∈ place.onward) :
    place.onward[later.index - place.index]? = some later := by
  induction place using inductionOn with
  | ended place ahead =>
      rw [onward_of_nil ahead, List.mem_singleton] at reached
      rw [reached, onward_of_nil ahead, Nat.sub_self]
      rfl
  | step place character rest ahead ih =>
      rw [onward_of_cons ahead, List.mem_cons] at reached
      rw [onward_of_cons ahead]
      rcases reached with same | behind
      · rw [same, Nat.sub_self]
        rfl
      · have moved := (index_add_length behind).1
        simp only [index_next] at moved
        have distance : later.index - place.index =
            later.index - (place.next character rest).index + 1 := by
          simp only [index_next]
          omega
        rw [distance, List.getElem?_cons_succ]
        exact ih behind

/-- A place onward has another index exactly if less text is ahead of it. -/
theorem index_ne_iff_shorter
    {place later : Place}
    (reached : later ∈ place.onward) :
    later.index ≠ place.index ↔ later.ahead.length < place.ahead.length := by
  have moved := index_add_length reached
  omega

/-- What passes a character comes to the place behind it. -/
theorem pass?_eq_some_iff {place later : Place} {set : CharSet} :
    place.pass? set = some later ↔
      ∃ character rest, place.ahead = character :: rest ∧
        set.contains character = true ∧ later = place.next character rest := by
  unfold pass?
  split
  · rename_i ahead
    simp [ahead]
  · rename_i character rest ahead
    constructor
    · intro passed
      split at passed
      · rename_i member
        exact ⟨character, rest, ahead, member, (Option.some.inj passed).symm⟩
      · cases passed
    · rintro ⟨other, others, equal, member, rfl⟩
      rw [ahead] at equal
      cases equal
      rw [if_pos member]
      rfl

/-- What passes a character moves on. -/
theorem mem_onward_of_pass?
    {place later : Place}
    {set : CharSet}
    (passed : place.pass? set = some later) :
    later ∈ place.onward := by
  obtain ⟨character, rest, ahead, _, rfl⟩ := pass?_eq_some_iff.mp passed
  rw [onward_of_cons ahead]
  exact List.mem_cons_of_mem _ (self_mem_onward _)

end Place
end Regex
end ResourceRouting
