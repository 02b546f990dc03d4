import ResourceRouting.Uri.Pattern

/-!
# Shapes of patterns

A pattern whose variables take one segment each is a list of characters and of places for values.
A path is read along this list; a value takes as much as it can.  Where one reading ends with the
path or before a slash, all others that do so end at the same place.
-/

namespace ResourceRouting
namespace Uri

/-- What stands in a pattern whose variables take one segment each. -/
inductive Atom
  /-- A character that stands for itself. -/
  | char (character : Char)
  /-- A place for a value. -/
  | value
  deriving DecidableEq, Repr

/-- What a pattern consists of, in order. -/
abbrev Shape := List Atom

namespace Shape

/-- The values that a text begins with, and what follows them; the longest value comes first. -/
def values : Text → List (Text × Text)
  | [] => []
  | character :: rest =>
      if character = '/' then
        []
      else
        (values rest).map (fun (value, more) => (character :: value, more)) ++
          [([character], rest)]

/-- The ways to read a text: the values and what follows, in the order of preference. -/
def readings : Shape → Text → List (List Text × Text)
  | [], text => [([], text)]
  | .char _ :: _, [] => []
  | .char character :: shape, next :: rest =>
      if next = character then readings shape rest else []
  | .value :: shape, text =>
      (values text).flatMap fun (value, rest) =>
        (readings shape rest).map fun (others, final) => (value :: others, final)

/-- The remainder that may follow a reading: nothing, or one line behind a slash. -/
def remainder? : Text → Option (Option Text)
  | [] => some none
  | '/' :: rest => if '\n' ∈ rest then none else some (some ('/' :: rest))
  | _ => none

/-- What a reading makes of a path, if what follows it may be a remainder. -/
def accept? (reading : List Text × Text) : Option PathMatch :=
  (remainder? reading.2).map fun remainder => ⟨reading.1.map some, remainder⟩

/-- What the preferred reading makes of a path. -/
def match? (shape : Shape) (path : Text) : Option PathMatch :=
  (shape.readings path).findSome? accept?

@[simp]
theorem match?_nil_nil : match? [] [] = some ⟨[], none⟩ := rfl

/-- A text is read along a shape with some values, and a rest is left. -/
inductive Reading : Shape → Text → List Text → Text → Prop
  /-- Where the shape ends the rest begins. -/
  | done (rest : Text) : Reading [] rest [] rest
  /-- A character stands for itself. -/
  | char
      {shape : Shape}
      {text rest : Text}
      {values : List Text}
      (character : Char)
      (others : Reading shape text values rest) :
      Reading (.char character :: shape) (character :: text) values rest
  /-- A value is some text without a slash. -/
  | value
      {shape : Shape}
      {text rest value : Text}
      {values : List Text}
      (nonempty : value ≠ [])
      (segment : '/' ∉ value)
      (others : Reading shape text values rest) :
      Reading (.value :: shape) (value ++ text) (value :: values) rest

/-- The values that a text begins with are its beginnings without a slash. -/
theorem mem_values_iff {text value rest : Text} :
    (value, rest) ∈ values text ↔ value ≠ [] ∧ '/' ∉ value ∧ text = value ++ rest := by
  induction text generalizing value rest with
  | nil =>
      simp only [values, List.not_mem_nil, false_iff]
      rintro ⟨nonempty, _, split⟩
      exact nonempty (List.append_eq_nil_iff.mp split.symm).1
  | cons character text ih =>
      by_cases slash : character = '/'
      · rw [values, if_pos slash]
        simp only [List.not_mem_nil, false_iff]
        rintro ⟨nonempty, segment, split⟩
        cases value with
        | nil => exact nonempty rfl
        | cons first others =>
            injection split with same _
            exact segment (by rw [← same, slash]; exact List.mem_cons_self ..)
      · rw [values, if_neg slash, List.mem_append, List.mem_map, List.mem_singleton]
        constructor
        · rintro (⟨⟨others, more⟩, found, equal⟩ | equal)
          · cases equal
            obtain ⟨_, segment, split⟩ := ih.mp found
            refine ⟨List.cons_ne_nil _ _, ?_, by rw [split, List.cons_append]⟩
            rw [List.mem_cons]
            rintro (same | later)
            · exact slash same.symm
            · exact segment later
          · cases equal
            exact ⟨List.cons_ne_nil _ _, by simpa using Ne.symm slash, rfl⟩
        · rintro ⟨nonempty, segment, split⟩
          cases value with
          | nil => exact absurd rfl nonempty
          | cons first others =>
              injection split with same behind
              subst same
              cases others with
              | nil => exact .inr (by rw [behind]; rfl)
              | cons second more =>
                  refine .inl ⟨(second :: more, rest), ih.mpr ⟨?_, ?_, behind⟩, rfl⟩
                  · exact List.cons_ne_nil _ _
                  · exact fun later => segment (List.mem_cons_of_mem _ later)

/-- The ways to read a text are the ones that the relation allows. -/
theorem mem_readings_iff {shape : Shape} {text rest : Text} {values : List Text} :
    (values, rest) ∈ shape.readings text ↔ Reading shape text values rest := by
  induction shape generalizing text values with
  | nil =>
      simp only [readings, List.mem_singleton, Prod.mk.injEq]
      constructor
      · rintro ⟨rfl, rfl⟩
        exact .done _
      · rintro ⟨_⟩
        exact ⟨rfl, rfl⟩
  | cons atom shape ih =>
      cases atom with
      | char character =>
          cases text with
          | nil =>
              simp only [readings, List.not_mem_nil, false_iff]
              rintro ⟨_⟩
          | cons next more =>
              by_cases same : next = character
              · subst same
                rw [readings, if_pos rfl, ih]
                constructor
                · exact .char next
                · rintro ⟨_⟩
                  assumption
              · rw [readings, if_neg same]
                simp only [List.not_mem_nil, false_iff]
                rintro ⟨_⟩
                exact same rfl
      | value =>
          simp only [readings, List.mem_flatMap, List.mem_map]
          constructor
          · rintro ⟨⟨value, more⟩, begins, ⟨others, final⟩, further, equal⟩
            obtain ⟨nonempty, segment, rfl⟩ := mem_values_iff.mp begins
            cases equal
            exact .value nonempty segment (ih.mp further)
          · rintro ⟨_⟩
            rename_i more value others nonempty segment further
            exact ⟨(value, more), mem_values_iff.mpr ⟨nonempty, segment, rfl⟩,
              (others, rest), ih.mpr further, rfl⟩

theorem findSome?_flatMap
    {α β γ : Type}
    (list : List α)
    (parts : α → List β)
    (result : β → Option γ) :
    (list.flatMap parts).findSome? result =
      list.findSome? fun part => (parts part).findSome? result := by
  induction list with
  | nil => rfl
  | cons part list ih =>
      rw [List.flatMap_cons, List.findSome?_append, ih, List.findSome?_cons]
      cases (parts part).findSome? result <;> rfl

/-- A text is read along two shapes one after the other. -/
theorem readings_append (first second : Shape) (text : Text) :
    (first ++ second).readings text =
      (first.readings text).flatMap fun (values, rest) =>
        (second.readings rest).map fun (others, final) => (values ++ others, final) := by
  induction first generalizing text with
  | nil => simp [readings]
  | cons atom first ih =>
      cases atom with
      | char character =>
          cases text with
          | nil => rfl
          | cons next more =>
              by_cases same : next = character
              · simp only [List.cons_append, readings, if_pos same, ih]
              · simp only [List.cons_append, readings, if_neg same, List.flatMap_nil]
      | value =>
          simp only [List.cons_append, readings, ih, List.flatMap_assoc, List.map_flatMap,
            List.flatMap_map, List.map_map]
          rfl

/-- The number of slashes among the characters that stand for themselves. -/
def slashCount (shape : Shape) : Nat :=
  shape.count (.char '/')

/-- A reading takes as many slashes as stand in the shape, and leaves the rest. -/
theorem Reading.exists_taken
    {shape : Shape}
    {text rest : Text}
    {values : List Text}
    (reading : Reading shape text values rest) :
    ∃ taken, text = taken ++ rest ∧ taken.count '/' = shape.slashCount := by
  induction reading with
  | done rest => exact ⟨[], rfl, rfl⟩
  | char character _ ih =>
      obtain ⟨taken, split, slashes⟩ := ih
      refine ⟨character :: taken, by rw [split, List.cons_append], ?_⟩
      rw [slashCount] at slashes ⊢
      simp only [List.count_cons, slashes]
      congr 1
      simp
  | @value _ _ _ value _ nonempty segment _ ih =>
      obtain ⟨taken, split, slashes⟩ := ih
      refine ⟨value ++ taken, by rw [split, List.append_assoc], ?_⟩
      rw [slashCount] at slashes ⊢
      rw [List.count_append, List.count_eq_zero_of_not_mem segment, slashes, Nat.zero_add,
        List.count_cons_of_ne (by simp)]

/-- A text that is empty or begins with a slash. -/
def EndsSegment (text : Text) : Prop :=
  text = [] ∨ ∃ rest, text = '/' :: rest

theorem endsSegment_of_remainder?
    {text : Text}
    {remainder : Option Text}
    (allowed : remainder? text = some remainder) :
    EndsSegment text := by
  unfold remainder? at allowed
  split at allowed
  · exact .inl rfl
  · exact .inr ⟨_, rfl⟩
  · cases allowed

/-- Of two rests of one text behind equally many slashes, both at the end of a segment. -/
theorem rest_eq_of_count_eq
    {first second firstRest secondRest : Text}
    (same : first ++ firstRest = second ++ secondRest)
    (slashes : first.count '/' = second.count '/')
    (firstEnds : EndsSegment firstRest)
    (secondEnds : EndsSegment secondRest) :
    firstRest = secondRest := by
  -- One of the two taken texts begins with the other; what it has in addition holds no slash.
  have shorter : ∀ {more before firstRest secondRest : Text},
      firstRest = more ++ secondRest → before.count '/' = (before ++ more).count '/' →
        EndsSegment firstRest → firstRest = secondRest := by
    intro more before firstRest secondRest split counts ends
    cases more with
    | nil => exact split
    | cons next others =>
        rcases ends with rfl | ⟨behind, rfl⟩
        · cases split
        · injection split with slash _
          subst slash
          rw [List.count_append, List.count_cons_self] at counts
          omega
  rcases List.append_eq_append_iff.mp same with
    ⟨more, secondSplit, firstSplit⟩ | ⟨more, firstSplit, secondSplit⟩
  · exact shorter firstSplit (by rw [slashes, secondSplit]) firstEnds
  · exact (shorter secondSplit (by rw [← slashes, firstSplit]) secondEnds).symm

/-- All readings of a text that end a segment leave the same rest. -/
theorem Reading.rest_unique
    {shape : Shape}
    {text firstRest secondRest : Text}
    {firstValues secondValues : List Text}
    (first : Reading shape text firstValues firstRest)
    (second : Reading shape text secondValues secondRest)
    (firstEnds : EndsSegment firstRest)
    (secondEnds : EndsSegment secondRest) :
    firstRest = secondRest := by
  obtain ⟨firstTaken, firstSplit, firstSlashes⟩ := first.exists_taken
  obtain ⟨secondTaken, secondSplit, secondSlashes⟩ := second.exists_taken
  exact rest_eq_of_count_eq (firstSplit.symm.trans secondSplit)
    (firstSlashes.trans secondSlashes.symm) firstEnds secondEnds

/-- A rest with a remainder is what stands in the match. -/
theorem remainder?_eq_some_some {text rest : Text} (allowed : remainder? text = some (some rest)) :
    text = rest := by
  unfold remainder? at allowed
  split at allowed
  · cases allowed
  · split at allowed
    · cases allowed
    · exact Option.some.inj (Option.some.inj allowed)
  · cases allowed

/-- A match comes from a reading with a remainder. -/
theorem exists_reading_of_match?
    {shape : Shape}
    {path : Text}
    {found : PathMatch}
    (matched : shape.match? path = some found) :
    ∃ values rest remainder,
      Reading shape path values rest ∧ remainder? rest = some remainder ∧
        found = ⟨values.map some, remainder⟩ := by
  obtain ⟨⟨values, rest⟩, present, accepted⟩ := List.exists_of_findSome?_eq_some matched
  obtain ⟨remainder, allowed, equal⟩ := Option.map_eq_some_iff.mp accepted
  exact ⟨values, rest, remainder, mem_readings_iff.mp present, allowed, equal.symm⟩

/-- A path is not matched exactly if no reading of it leaves a remainder. -/
theorem match?_eq_none_iff {shape : Shape} {path : Text} :
    shape.match? path = none ↔
      ∀ values rest, Reading shape path values rest → remainder? rest = none := by
  rw [match?, List.findSome?_eq_none_iff]
  constructor
  · intro absent values rest reading
    exact Option.map_eq_none_iff.mp (absent (values, rest) (mem_readings_iff.mpr reading))
  · rintro absent ⟨values, rest⟩ present
    exact Option.map_eq_none_iff.mpr (absent values rest (mem_readings_iff.mp present))

/-- A reading with a remainder makes the match if no other reading has other values. -/
theorem match?_of_reading
    {shape : Shape}
    {path rest : Text}
    {values : List Text}
    {remainder : Option Text}
    (reading : Reading shape path values rest)
    (allowed : remainder? rest = some remainder)
    (unique : ∀ others, Reading shape path others rest → others = values) :
    shape.match? path = some ⟨values.map some, remainder⟩ := by
  cases matched : shape.match? path with
  | none =>
      rw [match?_eq_none_iff.mp matched values rest reading] at allowed
      cases allowed
  | some found =>
      obtain ⟨others, otherRest, otherRemainder, other, otherAllowed, rfl⟩ :=
        exists_reading_of_match? matched
      have same : otherRest = rest :=
        other.rest_unique reading (endsSegment_of_remainder? otherAllowed)
          (endsSegment_of_remainder? allowed)
      subst same
      rw [unique others other, Option.some.inj (otherAllowed.symm.trans allowed)]

/--
A path is matched along two shapes as along the first one and then the second one, if the second
one begins with a slash.
-/
theorem match?_append
    {first second : Shape}
    {path rest : Text}
    {taken others : List (Option Text)}
    {remainder : Option Text}
    (slash : second.head? = some (.char '/'))
    (firstMatch : first.match? path = some ⟨taken, some rest⟩)
    (secondMatch : second.match? rest = some ⟨others, remainder⟩) :
    (first ++ second).match? path = some ⟨taken ++ others, remainder⟩ := by
  -- What the second shape makes of the rest of a reading along the first one.
  let further : List Text × Text → Option PathMatch := fun reading =>
    (second.match? reading.2).map fun found =>
      ⟨reading.1.map some ++ found.values, found.remainder⟩
  have joined : (first ++ second).match? path = (first.readings path).findSome? further := by
    rw [match?, readings_append, findSome?_flatMap]
    congr 1
    funext reading
    rw [List.findSome?_map]
    simp only [further, match?, List.map_findSome?]
    congr 1
    funext other
    simp only [Function.comp_apply, accept?, Option.map_map, List.map_append]
    rfl
  obtain ⟨before, ⟨values, behind⟩, after, split, accepted, refused⟩ :=
    List.findSome?_eq_some_iff.mp firstMatch
  obtain ⟨found, allowed, equal⟩ := Option.map_eq_some_iff.mp accepted
  cases equal
  obtain rfl := remainder?_eq_some_some allowed
  have reading : Reading first path values behind :=
    mem_readings_iff.mp (by rw [split]; simp)
  -- A reading that is refused leaves another rest, on which the second shape cannot go on.
  have passed : ∀ other ∈ before, further other = none := by
    rintro ⟨otherValues, otherRest⟩ present
    have other : Reading first path otherValues otherRest :=
      mem_readings_iff.mp (by rw [split]; exact List.mem_append_left _ present)
    have refusal : remainder? otherRest = none :=
      Option.map_eq_none_iff.mp (refused _ present)
    have unread : second.match? otherRest = none := by
      rw [match?_eq_none_iff]
      intro secondValues secondRest secondReading
      obtain ⟨tail, rfl⟩ := List.head?_eq_some_iff.mp slash
      cases secondReading with
      | char _ others =>
          have same := other.rest_unique reading (.inr ⟨_, rfl⟩)
            (endsSegment_of_remainder? allowed)
          rw [same, allowed] at refusal
          cases refusal
    simp only [further, unread, Option.map_none]
  have reached : further (values, behind) =
      some ⟨values.map some ++ others, remainder⟩ := by
    simp only [further, secondMatch, Option.map_some]
  rw [joined, split, List.findSome?_append, List.findSome?_eq_none_iff.mpr passed,
    List.findSome?_cons, reached]
  rfl

end Shape
end Uri
end ResourceRouting
