import ResourceRouting.Proofs.Uri.Segments.Size

/-!
# Matching templates of segments

A template of segments has a pattern if the engine admits its whole expression.  The pattern matches
the paths that can be divided into texts that fit the segments and a remainder, and the buffer then
holds the texts of the variables and the remainder.
-/

namespace ResourceRouting
namespace Uri
namespace Segment

/-- What may follow the matched part of a path: nothing, or a slash and more on the same line. -/
def IsRemainder (rest : Text) : Prop :=
  rest = [] ∨ rest.head? = some '/' ∧ '\n' ∉ rest

/-- A path consists of texts that fit some segments and a remainder. -/
structure Divides
    (segments : List Segment)
    (path : Text)
    (texts : List Text)
    (rest : Text) : Prop where
  /-- Each text fits its segment. -/
  fit : List.Forall₂ Fits segments texts
  /-- A remainder may follow. -/
  remainder : IsRemainder rest
  /-- Nothing else belongs to the path. -/
  whole : path = join texts ++ rest

/-- A remainder is noted as absent when it is empty. -/
def noted (rest : Text) : Option Text :=
  if rest = [] then none else some rest

/-- What may follow the matched part is what the matcher takes for a remainder. -/
theorem remainder?_eq_some_iff {rest : Text} {remainder : Option Text} :
    Shape.remainder? rest = some remainder ↔ IsRemainder rest ∧ remainder = noted rest := by
  unfold Shape.remainder?
  split
  · simp [IsRemainder, noted, eq_comm]
  · rename_i line
    by_cases feed : '\n' ∈ line
    · simp [IsRemainder, feed]
    · simp [IsRemainder, noted, feed, eq_comm]
  · rename_i rest notEmpty noSlash
    constructor
    · intro impossible
      cases impossible
    · rintro ⟨empty | ⟨slash, _⟩, _⟩
      · exact absurd empty notEmpty
      · obtain ⟨line, rfl⟩ := List.head?_eq_some_iff.mp slash
        exact absurd rfl (noSlash line)

theorem IsRemainder.endsSegment {rest : Text} (remainder : IsRemainder rest) :
    Shape.EndsSegment rest :=
  Shape.endsSegment_of_remainder? (remainder?_eq_some_iff.mpr ⟨remainder, rfl⟩)

/-- What is written along segments can be followed by a slash and more. -/
theorem isRemainder_join
    {texts : List Text}
    (line : ∀ text ∈ texts, '\n' ∉ text) :
    IsRemainder (join texts) := by
  cases texts with
  | nil => exact .inl rfl
  | cons text texts =>
      refine .inr ⟨rfl, ?_⟩
      intro feed
      obtain ⟨part, present, inPart⟩ := List.mem_flatMap.mp feed
      rcases List.mem_cons.mp inPart with slash | inText
      · exact absurd slash (by decide)
      · exact line part present inText

/-- The shape of valid segments matches a path that can be divided, with the captured values. -/
theorem Divides.match?_shapeOf
    {segments : List Segment}
    {path rest : Text}
    {texts : List Text}
    (valid : ∀ segment ∈ segments, segment.IsValid)
    (divides : Divides segments path texts rest) :
    Shape.match? (shapeOf segments) path =
      some ⟨(captured segments texts).map some, noted rest⟩ := by
  have reading : Shape.Reading (shapeOf segments) path (captured segments texts) rest :=
    reading_shapeOf_iff.mpr ⟨texts, divides.fit, divides.whole, rfl⟩
  apply Shape.match?_of_reading reading (remainder?_eq_some_iff.mpr ⟨divides.remainder, rfl⟩)
  intro others other
  obtain ⟨otherTexts, otherFit, otherWhole, rfl⟩ := reading_shapeOf_iff.mp other
  have same := divides.whole.symm.trans otherWhole
  have ends := divides.remainder.endsSegment
  rw [(texts_unique valid divides.fit otherFit ends ends same).1]

/-- The shape of segments matches only paths that can be divided. -/
theorem exists_divides_of_match?
    {segments : List Segment}
    {path : Text}
    {found : PathMatch}
    (matched : Shape.match? (shapeOf segments) path = some found) :
    ∃ texts rest, Divides segments path texts rest := by
  obtain ⟨values, rest, remainder, reading, allowed, _⟩ := Shape.exists_reading_of_match? matched
  obtain ⟨texts, fit, whole, _⟩ := reading_shapeOf_iff.mp reading
  exact ⟨texts, rest, fit, (remainder?_eq_some_iff.mp allowed).1, whole⟩

/--
A template of valid segments is compiled to a pattern of their shape, if the engine admits what is
read from its expression.
-/
theorem compile_template
    {segments : List Segment}
    (valid : ∀ segment ∈ segments, segment.IsValid)
    {slash : Bool}
    (nonempty : segments ≠ [] ∨ slash = true) :
    ∃ compiled, Template.compile (template segments slash) = .ok compiled ∧
      compiled.text = template segments slash ∧ compiled.names = names segments ∧
        Regex.Reader.read (Pattern.anchored compiled.expression) = some (wholeExpr segments) ∧
        ∀ admits : Regex.Expr → Bool,
          (admits (wholeExpr segments) = true →
            ∃ pattern, Pattern.compileWithin admits (template segments slash) = .ok pattern ∧
              pattern.template = compiled ∧
                ∀ path, path ≠ [] →
                  pattern.match? path = Shape.match? (shapeOf segments) path) ∧
          (admits (wholeExpr segments) = false →
            Pattern.compileWithin admits (template segments slash) =
              .error (.invalidExpression (template segments slash) [])) := by
  have shaped := hasShape_template valid slash
  obtain ⟨rest, begins⟩ := exists_template_eq nonempty
  rw [begins] at shaped
  have compiled := shaped.compile
  rw [dropSlash_shapeOf valid] at compiled
  obtain ⟨compiled, compiledOk, compiledText, compiledNames, _, read, results⟩ := compiled
  rw [begins]
  exact ⟨compiled, compiledOk, compiledText, compiledNames, read, results⟩

/--
Matching a template of segments.  What is read from its expression is valid, so the pattern exists
exactly if the engine admits that, whatever the limit of the engine is.  The pattern matches a path
that is not empty if and only if the path can be divided along the segments.  The buffer then holds
the texts of the variables in order and the remainder; otherwise it stays.
-/
theorem matchInto_template
    (segments : List Segment)
    (slash : Bool)
    (valid : ∀ segment ∈ segments, segment.IsValid)
    (nonempty : segments ≠ [] ∨ slash = true) :
    ∃ compiled whole, Template.compile (template segments slash) = .ok compiled ∧
      Regex.Reader.read (Pattern.anchored compiled.expression) = some whole ∧
      ∀ admits : Regex.Expr → Bool,
        (admits whole = false →
          Pattern.compileWithin admits (template segments slash) =
            .error (.invalidExpression (template segments slash) [])) ∧
        (admits whole = true →
          ∃ pattern, Pattern.compileWithin admits (template segments slash) = .ok pattern ∧
            ∀ path, path ≠ [] → ∀ buffer,
              ((pattern.matchInto path buffer).1 = true ↔
                ∃ texts rest, Divides segments path texts rest) ∧
              (∀ texts rest, Divides segments path texts rest →
                (pattern.matchInto path buffer).2 =
                  (captured segments texts).map some ++ [noted rest]) ∧
              ((pattern.matchInto path buffer).1 = false →
                (pattern.matchInto path buffer).2 = buffer)) := by
  obtain ⟨compiled, compiledOk, _, _, read, results⟩ := compile_template valid nonempty
  refine ⟨compiled, wholeExpr segments, compiledOk, read, fun admits => ?_⟩
  obtain ⟨small, large⟩ := results admits
  refine ⟨large, fun admitted => ?_⟩
  obtain ⟨pattern, patternOk, _, matches'⟩ := small admitted
  refine ⟨pattern, patternOk, ?_⟩
  intro path nonemptyPath buffer
  have whenMatched : ∀ texts rest, Divides segments path texts rest →
      pattern.matchInto path buffer =
        (true, (captured segments texts).map some ++ [noted rest]) := by
    intro texts rest divides
    rw [Pattern.matchInto, matches' path nonemptyPath, divides.match?_shapeOf valid]
    rfl
  refine ⟨⟨?_, ?_⟩, ?_, ?_⟩
  · intro success
    cases matched : pattern.match? path with
    | none => simp [Pattern.matchInto, matched] at success
    | some found =>
        rw [matches' path nonemptyPath] at matched
        exact exists_divides_of_match? matched
  · rintro ⟨texts, rest, divides⟩
    rw [whenMatched texts rest divides]
  · intro texts rest divides
    rw [whenMatched texts rest divides]
  · intro failure
    cases matched : pattern.match? path with
    | none => simp [Pattern.matchInto, matched]
    | some found => simp [Pattern.matchInto, matched] at failure

/-- A literal segment and a variable, with a slash at the end, and a path that goes on. -/
theorem matchInto_template_literal_braced :
    (∀ segment ∈ [Segment.literal "a".toList, .braced "x".toList], segment.IsValid) ∧
      ∃ pattern, Pattern.compile "/a/{x}/".toList = .ok pattern ∧
        pattern.matchInto "/a/q/r".toList [] = (true, [some "q".toList, some "/r".toList]) ∧
        pattern.matchInto "/b/q".toList [none] = (false, [none]) := by
  have valid : ∀ segment ∈ [Segment.literal "a".toList, .braced "x".toList],
      segment.IsValid := by
    decide +kernel
  obtain ⟨compiled, whole, compiledOk, read, results⟩ := matchInto_template
    [Segment.literal "a".toList, .braced "x".toList] true valid (.inr rfl)
  have text : template [Segment.literal "a".toList, .braced "x".toList] true =
      "/a/{x}/".toList := by decide
  rw [text] at compiledOk results
  have fits : whole.fits = true := Template.fits_of_read compiledOk read (by decide +kernel)
  obtain ⟨pattern, patternOk, results⟩ := (results Regex.Expr.fits).2 fits
  have encoded : "a".toList = Component.path.encodeLiteral "a".toList := by decide +kernel
  have divides : Divides [Segment.literal "a".toList, .braced "x".toList] "/a/q/r".toList
      ["a".toList, "q".toList] "/r".toList :=
    ⟨.cons encoded (.cons ⟨by decide, by decide⟩ .nil), .inr ⟨rfl, by decide⟩, rfl⟩
  have matched := results "/a/q/r".toList (by decide) []
  have refused := results "/b/q".toList (by decide) [none]
  have failure : (pattern.matchInto "/b/q".toList [none]).1 = false := by
    rw [← Bool.not_eq_true, refused.1]
    rintro ⟨texts, rest, fit, _, whole⟩
    cases fit with
    | @cons _ written _ texts first others =>
        obtain rfl : written = "a".toList := by
          rw [encoded]
          exact first
        exact absurd whole (by simp)
  refine ⟨valid, pattern, patternOk, ?_, ?_⟩
  · exact Prod.ext (matched.1.mpr ⟨_, _, divides⟩) (matched.2.1 _ _ divides)
  · exact Prod.ext failure (refused.2.2 failure)

/-- A variable is a valid segment, however often it is repeated. -/
theorem isValid_of_mem_replicate {count : Nat} :
    ∀ segment ∈ List.replicate count (Segment.braced ['a']), segment.IsValid := by
  intro segment present
  rw [List.eq_of_mem_replicate present]
  decide +kernel

@[simp]
theorem length_names_replicate (count : Nat) :
    (names (List.replicate count (.braced ['a']))).length = count := by
  rw [names, List.filterMap_replicate]
  exact List.length_replicate

/-- A variable that is repeated too often has no pattern. -/
theorem compile_template_replicate
    {count : Nat}
    (many : 9780 < count) :
    Pattern.compile (template (List.replicate count (.braced ['a'])) false) =
      .error (.invalidExpression (template (List.replicate count (.braced ['a'])) false) []) := by
  have nonempty : List.replicate count (Segment.braced ['a']) ≠ [] := by
    rw [ne_eq, List.replicate_eq_nil_iff]
    omega
  obtain ⟨_, _, _, _, _, results⟩ :=
    @compile_template _ isValid_of_mem_replicate false (.inl nonempty)
  apply (results Regex.Expr.fits).2
  rw [Bool.eq_false_iff, ne_eq, fits_replicate_iff]
  omega

/-- A template of 10000 variables has no pattern, though all its segments are valid. -/
theorem compile_template_too_large :
    (∀ segment ∈ List.replicate 10000 (Segment.braced ['a']), segment.IsValid) ∧
      List.replicate 10000 (Segment.braced ['a']) ≠ [] ∧
        ∀ pattern,
          Pattern.compile (template (List.replicate 10000 (.braced ['a'])) false) ≠
            .ok pattern := by
  refine ⟨isValid_of_mem_replicate, ?_, ?_⟩
  · rw [ne_eq, List.replicate_eq_nil_iff]
    decide
  · intro pattern found
    rw [@compile_template_replicate 10000 (by decide)] at found
    cases found

end Segment
end Uri
end ResourceRouting
