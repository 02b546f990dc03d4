import ResourceRouting.Proofs.Regex.Noting
import ResourceRouting.Proofs.Uri.Token.Reading

/-!
# Remainders

What a pattern leaves of a path is a text that its matcher notes.  It is no longer than the path,
and it is shorter if the expression begins with the slash of the template.
-/

namespace ResourceRouting
namespace Uri
namespace Template

/--
A template whose expression begins with a slash that every match takes: the slash is not all of the
template, where it is dropped, and the expressions of the variables stay within their parentheses.
-/
def Advances (text : Text) : Prop :=
  text ≠ ['/'] ∧ IsEnclosable text

instance : DecidablePred Advances :=
  fun _ => inferInstanceAs (Decidable (_ ∧ _))

end Template

namespace Pattern

variable {pattern : Pattern} {path left : Text} {found : PathMatch}

/-- What is left of a path is a text that the matcher has noted. -/
theorem exists_note_of_match?
    (matched : pattern.match? path = some found)
    (remainder : found.remainder = some left) :
    path ≠ [] ∧ ∃ regex notes, pattern.matcher = some regex ∧
      regex.search? path = some notes ∧ ∃ group, (group, left) ∈ notes := by
  cases path with
  | nil =>
      rw [match?] at matched
      split at matched <;> cases matched
      cases remainder
  | cons character rest =>
      refine ⟨List.cons_ne_nil _ _, ?_⟩
      rw [match?_cons] at matched
      split at matched
      · cases matched
      · rename_i regex matcher
        obtain ⟨notes, searched, rfl⟩ := Option.map_eq_some_iff.mp matched
        have isLast := Option.join_eq_some_iff.mp remainder
        obtain ⟨group, _, noted⟩ := List.mem_map.mp (List.mem_of_getLast? isLast)
        obtain ⟨earlier, later, rfl, _⟩ := List.lookup_eq_some_iff.mp noted
        exact ⟨regex, _, matcher, searched, group, List.mem_append_right _ (List.mem_cons_self ..)⟩

/-- No more is left of a path than there was. -/
theorem length_remainder_le
    (matched : pattern.match? path = some found)
    (remainder : found.remainder = some left) :
    left.length ≤ path.length := by
  obtain ⟨_, regex, notes, _, searched, group, noted⟩ := exists_note_of_match? matched remainder
  exact Regex.length_le_of_search? searched _ noted

/-- A pattern whose template advances takes the slash that the path begins with. -/
theorem IsCompiled.exists_eq_slash_cons
    (compiled : pattern.IsCompiled)
    (advances : Template.Advances pattern.text)
    (matched : pattern.match? path = some found)
    (remainder : found.remainder = some left) :
    ∃ rest, path = '/' :: rest ∧ left.length ≤ rest.length := by
  obtain ⟨nonempty, regex, notes, matcher, searched, group, noted⟩ :=
    exists_note_of_match? matched remainder
  obtain ⟨others, whole⟩ := compiled.exists_wholeExpr advances.2
    (ne_empty_of_match? nonempty matched) advances.1
  obtain rfl := Option.some.inj (matcher.symm.trans whole)
  obtain ⟨rest, begins, within⟩ := Regex.exists_cons_of_search?_char searched
  exact ⟨rest, begins, within _ noted⟩

end Pattern
end Uri
end ResourceRouting
