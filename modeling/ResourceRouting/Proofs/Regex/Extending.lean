import ResourceRouting.Proofs.Regex.Reading

/-!
# Reading with a parenthesis behind

What is read from a text alone is read from it as well when a closing parenthesis and more text
follow.  The exception is a text that ends inside a comment, which then goes on behind its end.
-/

namespace ResourceRouting
namespace Text

theorem cut_append
    {mark : Char}
    {text before after : Text}
    (found : cut mark text = some (before, after))
    (more : Text) :
    cut mark (text ++ more) = some (before, after ++ more) := by
  induction text generalizing before with
  | nil => cases found
  | cons character rest ih =>
      simp only [cut] at found
      rw [List.cons_append, cut]
      split at found
      · rename_i same
        cases found
        rw [if_pos same]
      · rename_i differs
        obtain ⟨⟨front, back⟩, inner, equal⟩ := Option.map_eq_some_iff.mp found
        cases equal
        rw [if_neg differs, ih inner]
        rfl

/-- A mark that is found only in what follows a text is found behind all of the text. -/
theorem append_of_cut_eq_none
    {mark : Char}
    {text more before after : Text}
    (absent : cut mark text = none)
    (found : cut mark (text ++ more) = some (before, after)) :
    ∃ others, before = text ++ others ∧ cut mark more = some (others, after) := by
  induction text generalizing before with
  | nil => exact ⟨before, rfl, found⟩
  | cons character rest ih =>
      simp only [cut] at absent
      rw [List.cons_append, cut] at found
      split at absent
      · cases absent
      · rename_i differs
        rw [if_neg differs] at found
        obtain ⟨⟨front, back⟩, inner, equal⟩ := Option.map_eq_some_iff.mp found
        cases equal
        obtain ⟨others, rfl, further⟩ := ih (Option.map_eq_none_iff.mp absent) inner
        exact ⟨others, rfl, further⟩

/-- A text does not begin in another way when a character follows that does not occur there. -/
theorem append_ne_append
    {text front : Text}
    {mark : Char}
    (bare : ∀ rest, text ≠ front ++ rest)
    (absent : mark ∉ front)
    (others rest : Text) :
    text ++ mark :: others ≠ front ++ rest := by
  intro same
  rcases List.append_eq_append_iff.mp same with ⟨more, longer, behind⟩ | ⟨more, longer, _⟩
  · cases more with
    | nil => exact bare [] (by simpa using longer.symm)
    | cons first more =>
        injection behind with equal _
        exact absent (by rw [longer, equal]; simp)
  · exact bare more longer

/-- A text that does not begin with a character does not begin with it when another one follows. -/
theorem append_ne_cons
    {text : Text}
    {character mark : Char}
    (bare : ∀ rest, text ≠ character :: rest)
    (differs : mark ≠ character)
    (others rest : Text) :
    text ++ mark :: others ≠ character :: rest :=
  @append_ne_append _ [character] _ bare (by simpa using differs) others rest

end Text

namespace Regex
namespace Flags

theorem skipFrom_cases (inComment : Bool) (text : Text) :
    (∀ others,
        skipFrom inComment (text ++ ')' :: others) = skipFrom inComment text ++ ')' :: others) ∨
      (skipFrom inComment text = [] ∧ skipFrom inComment (text ++ [')']) = []) := by
  have blank : Unicode.isBlank ')' = false := by decide
  induction text generalizing inComment with
  | nil =>
      cases inComment with
      | true => exact .inr ⟨rfl, by simp [skipFrom]⟩
      | false => exact .inl fun others => by simp [skipFrom, blank]
  | cons character rest ih =>
      simp only [List.cons_append, skipFrom]
      split
      · exact ih _
      · split
        · exact ih false
        · split
          · exact ih true
          · exact .inl fun _ => rfl

/-- A parenthesis is not skipped, unless it stands in a comment that the text ends in. -/
theorem skip_cases (flags : Flags) (text : Text) :
    (∀ others, flags.skip (text ++ ')' :: others) = flags.skip text ++ ')' :: others) ∨
      (flags.skip text = [] ∧ flags.skip (text ++ [')']) = []) := by
  unfold skip
  split
  · exact skipFrom_cases false text
  · exact .inl fun _ => rfl

theorem skip_append
    {flags : Flags}
    {text : Text}
    (left : flags.skip text ≠ [])
    (others : Text) :
    flags.skip (text ++ ')' :: others) = flags.skip text ++ ')' :: others := by
  rcases flags.skip_cases text with kept | ⟨ended, _⟩
  · exact kept others
  · exact absurd ended left

end Flags

/--
What a reader makes of its text when a parenthesis follows: it leaves the parenthesis and what is
behind, or the text ends in a comment that swallows the parenthesis.
-/
inductive Extends {α : Type} (read : Text → Option (α × Text)) (text : Text) (result : α) :
    Text → Prop
  /-- The same is read, and the parenthesis is left. -/
  | kept
      {rest : Text}
      (leaves : ∀ others, read (text ++ ')' :: others) = some (result, rest ++ ')' :: others)) :
      Extends read text result rest
  /-- The same is read, and nothing is left. -/
  | swallowed (ends : read (text ++ [')']) = some (result, [])) : Extends read text result []

namespace Extends

variable {α : Type} {read : Text → Option (α × Text)} {text rest : Text} {result : α}

/-- A reader that leaves something does not end in a comment. -/
theorem leaves
    (extended : Extends read text result rest)
    (left : rest ≠ [])
    (others : Text) :
    read (text ++ ')' :: others) = some (result, rest ++ ')' :: others) := by
  cases extended with
  | kept leaves => exact leaves others
  | swallowed _ => exact absurd rfl left

/-- What is made of the result does not change how the reader goes on. -/
theorem bind
    {β : Type}
    {final : β}
    (extended : Extends read text result rest)
    (further : α → Option β)
    (found : further result = some final) :
    Extends (fun text => (read text).bind fun (first, rest) => (further first).map (·, rest)) text
      final rest := by
  cases extended with
  | kept leaves => exact .kept fun others => by simp only [leaves, Option.bind_some, found,
      Option.map_some]
  | swallowed ends => exact .swallowed (by simp only [ends, Option.bind_some, found,
      Option.map_some])

/-- A character that stands before the rest of the text is read first. -/
theorem prepend
    {inner : Text → Option (α × Text)}
    {character : Char}
    (extended : Extends inner text result rest)
    (same : ∀ tail, read (character :: tail) = inner tail) :
    Extends read (character :: text) result rest := by
  cases extended with
  | kept leaves => exact .kept fun others => by rw [List.cons_append, same, leaves]
  | swallowed ends => exact .swallowed (by rw [List.cons_append, same, ends])

/-- Blanks and comments are skipped before something is read. -/
theorem afterSkip
    {flags : Flags}
    (found : read (flags.skip text) = some (result, rest))
    (extended : Extends read (flags.skip text) result rest)
    (shrinks : flags.skip text = [] → rest = []) :
    Extends (fun text => read (flags.skip text)) text result rest := by
  rcases flags.skip_cases text with kept | ⟨ended, swallowed⟩
  · cases extended with
    | kept leaves => exact .kept fun others => by rw [kept, leaves]
    | swallowed ends => exact .swallowed (by rw [kept, ends])
  · obtain rfl := shrinks ended
    rw [ended] at found
    exact .swallowed (by rw [swallowed, found])

/-- Blanks and comments are skipped behind what has been read. -/
theorem beforeSkip
    {flags : Flags}
    (leaves : ∀ others,
      read (text ++ ')' :: others) = some (result, flags.skip (rest ++ ')' :: others))) :
    Extends read text result (flags.skip rest) := by
  rcases flags.skip_cases rest with kept | ⟨ended, swallowed⟩
  · exact .kept fun others => by rw [leaves, kept]
  · rw [ended]
    exact .swallowed (by rw [leaves, swallowed])

end Extends

end Regex
end ResourceRouting
