import ResourceRouting.Proofs.Uri.Pieces
import ResourceRouting.Proofs.Uri.Writing.Binding

/-!
# Sections of a URI

What is written for a part stands between the marks of the part and in its component alone.  The
sections follow one another in the order of their components, so a name first occurs no further
behind than anywhere else.
-/

namespace ResourceRouting
namespace Uri

namespace Step

/-- The component that a step writes in. -/
def component? : Step → Option Component
  | mark _ => none
  | literal component _ => some component
  | value component _ => some component
  | unclosed _ => none

section Sections

variable
  {mode : BuildMode}
  {plan : Plan}
  {component : Component}
  {before after : Text}
  {part : Option Text}
  {written : List Written}

/-- What a step writes, it writes in its component. -/
theorem component?_of_fill
    {step : Step}
    {one : Written}
    (filled : step.fill mode plan = .ok one) :
    one.component? = step.component? := by
  cases step with
  | mark text =>
      cases filled
      rfl
  | literal component text =>
      cases filled
      rfl
  | unclosed part => cases filled
  | value component name =>
      rcases fill_value_cases filled with ⟨_, rfl⟩ | ⟨_, _, _, _, rfl⟩ <;> rfl

/-- The steps of a part write in its component. -/
theorem component?_of_mem_ofPart
    {whole rest : Text}
    {step : Step}
    (present : step ∈ ofPart component whole rest) :
    step.component? = some component ∨ step = .unclosed whole := by
  induction rest using ofPart.induct with
  | case1 rest dropped =>
      rw [ofPart_of_nil dropped, List.mem_singleton] at present
      exact .inl (present ▸ rfl)
  | case2 rest head inside dropped unclosed =>
      rw [ofPart_of_unclosed dropped unclosed] at present
      simp only [List.mem_cons, List.not_mem_nil, or_false] at present
      rcases present with rfl | rfl
      · exact .inl rfl
      · exact .inr rfl
  | case3 rest head inside dropped body after closed ih =>
      rw [ofPart_of_closed dropped closed, List.mem_cons, List.mem_cons] at present
      rcases present with rfl | rfl | later
      · exact .inl rfl
      · exact .inl rfl
      · exact ih later

/-- What is written for a part stands between its marks and in its component alone. -/
theorem join_of_fillAll_ofSection
    (filled : fillAll mode plan (ofSection before component after part) = .ok written) :
    Written.join written =
        part.elim [] (fun _ => before ++ (Written.textOf component written ++ after)) ∧
      ∀ other, other ≠ component → Written.textOf other written = [] := by
  cases part with
  | none =>
      cases filled
      exact ⟨rfl, fun _ _ => rfl⟩
  | some part =>
      obtain ⟨opening, _, rfl, opened, behind⟩ :=
        @exists_append_of_fillAll _ _ [.mark before] _ _ filled
      obtain ⟨inner, closing, rfl, inside, closed⟩ := exists_append_of_fillAll behind
      cases opened
      cases closed
      have own : ∀ one ∈ inner, one.component? = some component := by
        intro one present
        obtain ⟨step, listed, taken⟩ := exists_mem_of_fillAll inside present
        rcases component?_of_mem_ofPart listed with writes | rfl
        · exact (component?_of_fill taken).trans writes
        · cases taken
      constructor
      · simp [Written.textOf_eq_join own, Written.text]
      · intro other different
        have elsewhere : ∀ one ∈ inner, one.component? ≠ some other := by
          intro one present same
          exact different (Option.some.inj (same.symm.trans (own one present)))
        simp [Written.textOf_eq_nil elsewhere]

/-- What is written for a part begins with the first character of the part, unless it is a brace. -/
theorem head?_textOf_of_fillAll_ofSection
    {first : Char}
    {part : Text}
    (filled : fillAll mode plan (ofSection before component after (some (first :: part))) =
      .ok written)
    (plain : isPlain first = true) :
    (Written.textOf component written).head? = some first := by
  obtain ⟨steps, _, begins⟩ := exists_ofPart_cons plain component (first :: part) part
  rw [ofSection, begins, fillAll_eq_ok_iff] at filled
  cases filled with
  | cons marked filled =>
      cases filled with
      | cons literal filled =>
          cases marked
          cases literal
          rw [Written.textOf_mark_cons, Written.textOf_literal_cons]
          rfl

/-- The placeholders of a part stand in its component. -/
theorem eq_of_mem_occurrences_ofSection
    {entry : Text × Component}
    (present : entry ∈ occurrences (ofSection before component after part)) :
    entry.2 = component := by
  obtain ⟨step, listed, occurs⟩ := List.mem_filterMap.mp present
  cases part with
  | none => cases listed
  | some part =>
      rw [ofSection, List.mem_cons, List.mem_append, List.mem_singleton] at listed
      rcases listed with rfl | inside | rfl
      · cases occurs
      · rcases component?_of_mem_ofPart inside with writes | rfl
        · cases step <;> cases occurs
          exact Option.some.inj writes
        · cases occurs
      · cases occurs

end Sections

/-- Whether placeholders stand in the order of their components, behind a place. -/
structure Ordered (place : Nat) (steps : List Step) : Prop where
  /-- No placeholder stands before the place. -/
  behind : ∀ entry ∈ occurrences steps, place ≤ entry.2.rank
  /-- The components follow one another. -/
  ordered : (occurrences steps).Pairwise fun first second => first.2.rank ≤ second.2.rank

/-- Steps for a part come before those that stand behind it. -/
theorem Ordered.ofSection
    {steps : List Step}
    (component : Component)
    (ordered : Ordered (component.rank + 1) steps)
    (before after : Text)
    (part : Option Text) :
    Ordered component.rank (ofSection before component after part ++ steps) := by
  constructor
  · intro entry present
    rw [occurrences_append, List.mem_append] at present
    rcases present with here | later
    · rw [eq_of_mem_occurrences_ofSection here]
    · exact Nat.le_of_succ_le (ordered.behind entry later)
  · rw [occurrences_append, List.pairwise_append]
    refine ⟨List.pairwise_of_forall_mem_list ?_, ordered.ordered, ?_⟩
    · intro first firstHere second secondHere
      rw [eq_of_mem_occurrences_ofSection firstHere, eq_of_mem_occurrences_ofSection secondHere]
    · intro first here second later
      rw [eq_of_mem_occurrences_ofSection here]
      exact Nat.le_of_succ_le (ordered.behind second later)

/-- Placeholders behind a place are behind all places before it. -/
theorem Ordered.mono
    {steps : List Step}
    {place earlier : Nat}
    (ordered : Ordered place steps)
    (less : earlier ≤ place) :
    Ordered earlier steps :=
  ⟨fun entry present => less.trans (ordered.behind entry present), ordered.ordered⟩

end Step

namespace Parts

/-- The placeholders of the parts stand in the order of their components. -/
theorem ordered_steps (parts : Parts) : Step.Ordered 0 parts.steps := by
  have none : Step.Ordered 7 [] := ⟨fun _ present => absurd present List.not_mem_nil, .nil⟩
  have fragment := Step.Ordered.ofSection .fragment none ['#'] [] (present parts.fragment)
  have query := Step.Ordered.ofSection .query fragment ['?'] [] (present parts.query)
  have path := Step.Ordered.ofSection .path query parts.pathMark [] (present parts.path)
  rw [List.append_nil] at path
  refine Step.Ordered.ofSection .scheme ?_ [] [':'] parts.scheme
  rw [authoritySteps]
  split
  · have port := Step.Ordered.ofSection .port path [':'] [] parts.port
    have host := Step.Ordered.ofSection .host port [] [] parts.host
    have userInfo := Step.Ordered.ofSection .userInfo host [] ['@'] (present parts.userInfo)
    rw [List.cons_append, List.append_assoc, List.append_assoc]
    exact ⟨userInfo.behind, userInfo.ordered⟩
  · exact path.mono (by decide)

/-- A name first occurs no further behind than where it is looked for. -/
theorem rank_le_of_lookup
    {parts : Parts}
    {component first : Component}
    {name : Text}
    (occurs : (name, component) ∈ parts.occurrences)
    (found : parts.occurrences.lookup name = some first) :
    first.rank ≤ component.rank := by
  obtain ⟨before, after, split, earlier⟩ := List.lookup_eq_some_iff.mp found
  have ordered := parts.ordered_steps.ordered
  change List.Pairwise _ parts.occurrences at ordered
  rw [split] at ordered occurs
  -- Before its first occurrence the name does not stand; behind it the order tells the rest.
  rcases List.mem_append.mp occurs with front | back
  · simpa using earlier _ front
  · rcases List.mem_cons.mp back with same | later
    · cases same
      exact Nat.le_refl _
    · exact (List.pairwise_cons.mp (List.pairwise_append.mp ordered).2.1).1 _ later

/-- The text of a value is prepared for no component that stands further behind. -/
theorem rank_home_le
    {parts : Parts}
    {component : Component}
    {name : Text}
    (occurs : (name, component) ∈ parts.occurrences)
    (values : Values) :
    ((values.plan parts.occurrences).home component name).rank ≤ component.rank := by
  cases values with
  | named bindings => exact Nat.le_refl _
  | positional unused bound =>
      change ((parts.occurrences.lookup name).getD component).rank ≤ component.rank
      cases found : parts.occurrences.lookup name with
      | none => exact Nat.le_refl _
      | some first => exact rank_le_of_lookup occurs found

end Parts

end Uri
end ResourceRouting
