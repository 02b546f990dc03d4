import ResourceRouting.Proofs.Uri.Segments

/-!
# Values that end segments

Where every value of a shape stands before a slash or at the end, a path is read along the shape in
one way only, and a path that is read to its end is matched as a whole.
-/

namespace ResourceRouting
namespace Uri

namespace Shape

/-- Whether every value of a shape ends a segment. -/
def EndsSegments : Shape → Prop
  | [] => True
  | .char _ :: shape => EndsSegments shape
  | .value :: shape => (shape = [] ∨ shape.head? = some (.char '/')) ∧ EndsSegments shape

instance decidableEndsSegments : (shape : Shape) → Decidable shape.EndsSegments
  | [] => isTrue trivial
  | .char _ :: shape => decidableEndsSegments shape
  | .value :: shape =>
      have := decidableEndsSegments shape
      inferInstanceAs (Decidable
        ((shape = [] ∨ shape.head? = some (.char '/')) ∧ EndsSegments shape))

/-- A text that is read along a shape without a value in front begins where a segment ends. -/
theorem Reading.endsSegment
    {shape : Shape}
    {text rest : Text}
    {values : List Text}
    (reading : Reading shape text values rest)
    (slash : shape = [] ∨ shape.head? = some (.char '/'))
    (ends : EndsSegment rest) :
    EndsSegment text := by
  cases reading with
  | done rest => exact ends
  | char character others =>
      rcases slash with none | slash
      · cases none
      · cases slash
        exact .inr ⟨_, rfl⟩
  | value nonempty segment others =>
      rcases slash with none | slash
      · cases none
      · cases slash

/-- Along a shape whose values end segments a text is read in one way. -/
theorem Reading.values_unique
    {shape : Shape}
    {text rest : Text}
    {first second : List Text}
    (firstReading : Reading shape text first rest)
    (secondReading : Reading shape text second rest)
    (whole : shape.EndsSegments)
    (ends : EndsSegment rest) :
    first = second := by
  induction firstReading generalizing second with
  | done rest =>
      cases secondReading
      rfl
  | char character _ ih =>
      cases secondReading with
      | char _ others => exact ih others whole ends
  | @value shape text rest value values nonempty segment others ih =>
      generalize same : value ++ text = written at secondReading
      cases secondReading with
      | @value _ otherText _ otherValue _ _ otherSegment further =>
          -- Behind both values the segment ends, so both are all of the text before a slash.
          obtain ⟨slash, whole⟩ := whole
          obtain ⟨rfl, rfl⟩ := Segment.eq_of_append_eq_append same segment otherSegment
            (others.endsSegment slash ends) (further.endsSegment slash ends)
          rw [ih further whole ends]

/-- A character at the end of a shape may be left to the rest. -/
theorem Reading.of_concat
    {shape : Shape}
    {text rest : Text}
    {values : List Text}
    {character : Char}
    (reading : Reading (shape ++ [.char character]) text values rest) :
    Reading shape text values (character :: rest) := by
  induction shape generalizing text values with
  | nil =>
      cases reading with
      | char _ others =>
          cases others
          exact .done _
  | cons atom shape ih =>
      cases reading with
      | char character others => exact .char character (ih others)
      | value nonempty segment others => exact .value nonempty segment (ih others)

theorem EndsSegments.of_concat
    {shape : Shape}
    (whole : EndsSegments (shape ++ [.char '/'])) :
    shape.EndsSegments := by
  induction shape with
  | nil => trivial
  | cons atom shape ih =>
      cases atom with
      | char character => exact ih whole
      | value =>
          obtain ⟨slash, whole⟩ := whole
          refine ⟨?_, ih whole⟩
          cases shape with
          | nil => exact .inl rfl
          | cons next shape =>
              rcases slash with none | slash
              · cases none
              · exact .inr slash

/-- The whole of a path is matched where it is read to its end along a shape. -/
theorem Reading.exists_match?_dropSlash
    {shape : Shape}
    {path : Text}
    {values : List Text}
    (reading : Reading shape path values [])
    (whole : shape.EndsSegments) :
    ∃ remainder, shape.dropSlash.match? path = some ⟨values.map some, remainder⟩ ∧
      PathMatch.isTerminal remainder = true := by
  rw [dropSlash]
  split
  -- The slash at the end of the shape is dropped, and left as the remainder of the path.
  · rename_i slash
    obtain ⟨front, rfl⟩ := List.getLast?_eq_some_iff.mp slash
    rw [List.dropLast_concat]
    have shorter := reading.of_concat
    refine ⟨some ['/'], match?_of_reading shorter (by decide) ?_, by decide⟩
    exact fun _ other => other.values_unique shorter whole.of_concat (.inr ⟨[], rfl⟩)
  · refine ⟨none, match?_of_reading reading rfl ?_, rfl⟩
    exact fun _ other => other.values_unique reading whole (.inl rfl)

end Shape

end Uri
end ResourceRouting
