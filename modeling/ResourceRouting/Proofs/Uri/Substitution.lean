import Mathlib.Data.List.TakeWhile
import ResourceRouting.Uri.Build

/-!
# Substituting placeholders

What substitution makes of a text by what stands behind its first brace: nothing at all, a
placeholder that is not closed, or one that is.
-/

namespace ResourceRouting
namespace Uri

section Equations

variable {rest inside body after : Text} {brace : Char}

/-- A text without a placeholder stays. -/
theorem substitute_of_nil
    (dropped : rest.dropWhile isPlain = [])
    (whole : Text)
    (component : Component)
    (mode : BuildMode)
    (values : Values) :
    substitute whole component mode values rest = .ok (rest.takeWhile isPlain, values) := by
  rw [substitute.eq_def]
  split
  · rfl
  · rename_i next
    rw [dropped] at next
    cases next

/-- A placeholder that is not closed is a fault. -/
theorem substitute_of_unclosed
    (dropped : rest.dropWhile isPlain = brace :: inside)
    (unclosed : Template.closeBrace 0 inside = none)
    (whole : Text)
    (component : Component)
    (mode : BuildMode)
    (values : Values) :
    substitute whole component mode values rest = .error (.malformed whole) := by
  rw [substitute.eq_def]
  split
  · rename_i next
    rw [dropped] at next
    cases next
  · rename_i next
    rw [dropped] at next
    cases next
    split
    · rfl
    · rename_i closed
      rw [unclosed] at closed
      cases closed

/-- A placeholder is resolved, and what follows it is substituted with the values that remain. -/
theorem substitute_of_closed
    (dropped : rest.dropWhile isPlain = brace :: inside)
    (closed : Template.closeBrace 0 inside = some (body, after))
    (whole : Text)
    (component : Component)
    (mode : BuildMode)
    (values : Values) :
    substitute whole component mode values rest =
      match values.resolve (Template.splitVariable body).1 component mode.encode with
      | .error error => .error error
      | .ok (found, remaining) =>
          match found, mode.asTemplate with
          | none, false => .error (.missing (Template.splitVariable body).1)
          | _, _ =>
              (substitute whole component mode remaining after).map fun result =>
                (rest.takeWhile isPlain ++
                  found.getD (placeholder (Template.splitVariable body).1) ++ result.1,
                  result.2) := by
  rw [substitute.eq_def]
  split
  · rename_i next
    rw [dropped] at next
    cases next
  · rename_i next
    rw [dropped] at next
    cases next
    split
    · rename_i unclosed
      rw [closed] at unclosed
      cases unclosed
    · rename_i other
      rw [closed] at other
      cases other
      dsimp only
      cases values.resolve (Template.splitVariable body).1 component mode.encode with
      | error fault => rfl
      | ok result =>
          obtain ⟨found, remaining⟩ := result
          dsimp only
          cases substitute whole component mode remaining after <;>
            cases found <;> cases mode.asTemplate <;> rfl

end Equations

/-- A text without an opening brace stays. -/
theorem substitute_plain
    {literal : Text}
    (plain : ∀ character ∈ literal, isPlain character = true)
    (whole : Text)
    (component : Component)
    (mode : BuildMode)
    (values : Values) :
    substitute whole component mode values literal = .ok (literal, values) := by
  have all : literal.takeWhile isPlain = literal := List.takeWhile_eq_self_iff.mpr plain
  rw [substitute_of_nil (List.dropWhile_eq_nil_iff.mpr plain), all]

/-- The first variable of a text, if it has a value, is replaced by it. -/
theorem substitute_append_braced
    {literal inside body after text : Text}
    {whole : Text}
    {component : Component}
    {mode : BuildMode}
    {values remaining : Values}
    (plain : ∀ character ∈ literal, isPlain character = true)
    (closed : Template.closeBrace 0 inside = some (body, after))
    (found : values.resolve (Template.splitVariable body).1 component mode.encode =
      .ok (some text, remaining)) :
    substitute whole component mode values (literal ++ '{' :: inside) =
      (substitute whole component mode remaining after).map fun (more, final) =>
        (literal ++ text ++ more, final) := by
  have opening : isPlain '{' = false := by decide
  have before : (literal ++ '{' :: inside).takeWhile isPlain = literal := by
    rw [List.takeWhile_append_of_pos plain, List.takeWhile_cons, opening]
    simp
  have behind : (literal ++ '{' :: inside).dropWhile isPlain = '{' :: inside := by
    rw [List.dropWhile_append_of_pos plain, List.dropWhile_cons, opening]
    simp
  rw [substitute_of_closed behind closed, found, before]
  rfl

end Uri
end ResourceRouting
