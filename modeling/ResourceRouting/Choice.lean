/-!
# Choosing from a list

The first of the best members of a list: a later member is taken only where it is strictly better
than the one held so far.
-/

namespace ResourceRouting
namespace Choice

variable {α : Type}

/-- The better of the one that is held and the next one; the held one stays in a tie. -/
def prefer (better : α → α → Bool) (held next : α) : α :=
  if better next held then next else held

/-- The first of the best members. -/
def firstBest (better : α → α → Bool) : List α → Option α
  | [] => none
  | first :: rest => some (rest.foldl (prefer better) first)

@[simp]
theorem firstBest_nil (better : α → α → Bool) : firstBest better [] = none := rfl

theorem firstBest_cons (better : α → α → Bool) (first : α) (rest : List α) :
    firstBest better (first :: rest) = some (rest.foldl (prefer better) first) := rfl

/-- What a fold of choices holds in the end was held at first or stands in the list. -/
theorem foldl_prefer_mem (better : α → α → Bool) (held : α) (rest : List α) :
    rest.foldl (prefer better) held ∈ held :: rest := by
  induction rest generalizing held with
  | nil => simp
  | cons next rest ih =>
      have found := ih (prefer better held next)
      simp only [List.foldl_cons, List.mem_cons] at found ⊢
      rcases found with equal | member
      · rw [equal]
        unfold prefer
        split
        · exact .inr (.inl rfl)
        · exact .inl rfl
      · exact .inr (.inr member)

/-- What is chosen stands in the list. -/
theorem firstBest_mem {better : α → α → Bool} {list : List α} {chosen : α}
    (found : firstBest better list = some chosen) : chosen ∈ list := by
  cases list with
  | nil => cases found
  | cons first rest =>
      cases found
      exact foldl_prefer_mem better first rest

/-- Nothing is chosen from the empty list only. -/
@[simp]
theorem firstBest_eq_none_iff {better : α → α → Bool} {list : List α} :
    firstBest better list = none ↔ list = [] := by
  cases list <;> simp [firstBest]

end Choice
end ResourceRouting
