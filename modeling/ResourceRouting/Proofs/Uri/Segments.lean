import Mathlib.Data.List.Forall2
import ResourceRouting.Proofs.Uri.Shape.Pattern

/-!
# Templates of segments

A template may be a list of segments, each of which is literal text or one variable.  Such a
template matches exactly the paths whose first segments fit its own, and the values are the texts
of the segments that are variables.
-/

namespace ResourceRouting
namespace Uri

/-- A segment of a template. -/
inductive Segment
  /-- Text that stands for itself. -/
  | literal (text : Text)
  /-- A variable, given by what stands between its braces. -/
  | braced (body : Text)
  deriving DecidableEq, Repr

namespace Segment

/-- The text of a segment in a template. -/
def text : Segment → Text
  | literal text => text
  | braced body => '{' :: body ++ ['}']

/-- The name of a variable, if the segment is one. -/
def name? : Segment → Option Text
  | literal _ => none
  | braced body => some (Template.splitVariable body).1

/--
A literal segment is not empty and has no slash and no braces.  What stands in the braces of a
variable is closed by the brace behind it, gives a name and no expression but the default one.
-/
def IsValid : Segment → Prop
  | literal text =>
      text ≠ [] ∧ '/' ∉ text ∧ ∀ character ∈ text, Template.isBrace character = false
  | braced body =>
      Template.closeBrace 0 (body ++ ['}']) = some (body, []) ∧
        (Template.splitVariable body).1 ≠ [] ∧
          (Template.splitVariable body).2.getD Template.defaultExpression =
            Template.defaultExpression

instance : DecidablePred IsValid
  | literal text =>
      decidable_of_iff
        (text ≠ [] ∧ '/' ∉ text ∧ text.all fun character => !Template.isBrace character)
        (by simp [IsValid])
  | braced body =>
      inferInstanceAs (Decidable
        (Template.closeBrace 0 (body ++ ['}']) = some (body, []) ∧
          (Template.splitVariable body).1 ≠ [] ∧
            (Template.splitVariable body).2.getD Template.defaultExpression =
              Template.defaultExpression))

/-- What a segment of a path may be: encoded literal text, or any text for a variable. -/
def Fits : Segment → Text → Prop
  | literal text, written => written = Component.path.encodeLiteral text
  | braced _, value => value ≠ [] ∧ '/' ∉ value

instance : ∀ segment written, Decidable (Fits segment written)
  | literal text, written =>
      inferInstanceAs (Decidable (written = Component.path.encodeLiteral text))
  | braced _, value => inferInstanceAs (Decidable (value ≠ [] ∧ '/' ∉ value))

/-- What stands for a segment in a shape. -/
def shape : Segment → Shape
  | literal text => (Component.path.encodeLiteral text).map .char
  | braced _ => [.value]

/-- A path of segments. -/
def join (texts : List Text) : Text :=
  texts.flatMap ('/' :: ·)

/-- The template of some segments, with or without a slash at its end. -/
def template (segments : List Segment) (slash : Bool) : Text :=
  join (segments.map text) ++ if slash then ['/'] else []

/-- The names of the variables among some segments, one for each occurrence. -/
def names (segments : List Segment) : List Text :=
  segments.filterMap name?

/-- The texts that belong to variables, of texts that belong to segments. -/
def captured : List Segment → List Text → List Text
  | .literal _ :: segments, _ :: texts => captured segments texts
  | .braced _ :: segments, text :: texts => text :: captured segments texts
  | _, _ => []

/-- The shape of a path of segments. -/
def shapeOf (segments : List Segment) : Shape :=
  segments.flatMap fun segment => .char '/' :: segment.shape

@[simp]
theorem join_nil : join [] = [] := rfl

@[simp]
theorem join_cons (text : Text) (texts : List Text) :
    join (text :: texts) = '/' :: text ++ join texts := rfl

@[simp]
theorem join_append (first second : List Text) :
    join (first ++ second) = join first ++ join second := by
  simp [join]

theorem template_append (first second : List Segment) :
    template (first ++ second) false = template first false ++ template second false := by
  simp [template]

@[simp]
theorem shapeOf_nil : shapeOf [] = [] := rfl

@[simp]
theorem shapeOf_cons (segment : Segment) (segments : List Segment) :
    shapeOf (segment :: segments) = .char '/' :: segment.shape ++ shapeOf segments := rfl

theorem mem_names
    {segment : Segment}
    {segments : List Segment}
    {name : Text}
    (present : segment ∈ segments)
    (named : segment.name? = some name) :
    name ∈ names segments :=
  List.mem_filterMap.mpr ⟨segment, present, named⟩

/-- A path of segments is empty or begins with a slash, whatever of this kind follows it. -/
theorem endsSegment_join_append (texts : List Text) {rest : Text} (ends : Shape.EndsSegment rest) :
    Shape.EndsSegment (join texts ++ rest) := by
  cases texts with
  | nil => exact ends
  | cons text texts => exact .inr ⟨text ++ join texts ++ rest, by simp⟩

/-- A valid segment behind a slash has the shape of the segment. -/
theorem IsValid.hasShape {segment : Segment} (valid : segment.IsValid) :
    Template.HasShape ('/' :: segment.text) (.char '/' :: segment.shape) segment.name?.toList := by
  cases segment with
  | literal text =>
      obtain ⟨_, _, plain⟩ := valid
      have joined : ∀ character ∈ '/' :: text, Template.isBrace character = false := by
        simpa using ⟨by decide, plain⟩
      have shaped := Template.HasShape.literal joined
      rw [Component.encodeLiteral_slash_cons] at shaped
      exact shaped
  | braced body =>
      obtain ⟨closed, named, default⟩ := valid
      have slash : ∀ character ∈ ['/'], Template.isBrace character = false := by
        simp [Template.isBrace]
      exact .braced slash closed named default (.literal (by simp))

/-- Valid segments have their shape in front of the shape of what follows them. -/
theorem hasShape_join_append
    {segments : List Segment}
    (valid : ∀ segment ∈ segments, segment.IsValid)
    {rest : Text}
    {shape : Shape}
    {restNames : List Text}
    (shaped : Template.HasShape rest shape restNames)
    (ends : Shape.EndsSegment rest) :
    Template.HasShape (join (segments.map text) ++ rest) (shapeOf segments ++ shape)
      (names segments ++ restNames) := by
  induction segments with
  | nil => exact shaped
  | cons segment segments ih =>
      have own := (valid segment (List.mem_cons_self ..)).hasShape
      have others := ih fun other present => valid other (List.mem_cons_of_mem _ present)
      have nameList : names (segment :: segments) = segment.name?.toList ++ names segments := by
        rw [names, names, List.filterMap_cons]
        cases segment.name? <;> rfl
      rw [List.map_cons, join_cons, shapeOf_cons, nameList, List.append_assoc, List.append_assoc,
        List.append_assoc]
      rcases endsSegment_join_append (segments.map text) ends with empty | ⟨more, begins⟩
      · rw [empty] at others ⊢
        obtain ⟨noShape, noNames⟩ := others.eq_nil
        rw [noShape, noNames, List.append_nil, List.append_nil, List.append_nil]
        exact own
      · rw [begins] at others ⊢
        exact own.append others

/-- The template of valid segments has their shape, and the slash at its end if there is one. -/
theorem hasShape_template
    {segments : List Segment}
    (valid : ∀ segment ∈ segments, segment.IsValid)
    (slash : Bool) :
    Template.HasShape (template segments slash)
      (shapeOf segments ++ if slash then [.char '/'] else []) (names segments) := by
  have tailShaped : Template.HasShape (if slash then ['/'] else [])
      (if slash then [.char '/'] else []) [] := by
    cases slash with
    | false => exact .literal (by simp)
    | true => exact .literal (by simp [Template.isBrace])
  have tailEnds : Shape.EndsSegment (if slash then ['/'] else []) := by
    cases slash with
    | false => exact .inl rfl
    | true => exact .inr ⟨[], rfl⟩
  have shaped := hasShape_join_append valid tailShaped tailEnds
  rwa [List.append_nil] at shaped

/-- A template of segments begins with a slash unless it is empty. -/
theorem exists_template_eq
    {segments : List Segment}
    {slash : Bool}
    (nonempty : segments ≠ [] ∨ slash = true) :
    ∃ rest, template segments slash = '/' :: rest := by
  cases segments with
  | cons segment segments => exact ⟨_, rfl⟩
  | nil =>
      rcases nonempty with impossible | rfl
      · exact absurd rfl impossible
      · exact ⟨[], rfl⟩

/-- A template of valid segments does not end with a slash unless one is put there. -/
theorem getLast?_template
    {segments : List Segment}
    (valid : ∀ segment ∈ segments, segment.IsValid) :
    (template segments false).getLast? ≠ some '/' := by
  rw [template, if_neg (by decide), List.append_nil]
  induction segments with
  | nil => simp
  | cons segment segments ih =>
      have others := ih fun other present => valid other (List.mem_cons_of_mem _ present)
      have own : segment.text ≠ [] ∧ segment.text.getLast? ≠ some '/' := by
        cases segment with
        | literal text =>
            obtain ⟨nonempty, noSlash, _⟩ := valid _ (List.mem_cons_self ..)
            exact ⟨nonempty, fun ends => noSlash (List.mem_of_getLast? ends)⟩
        | braced body =>
            refine ⟨List.cons_ne_nil _ _, ?_⟩
            rw [text, List.getLast?_concat]
            decide
      rw [List.map_cons, join_cons, List.getLast?_append]
      cases later : (join (segments.map text)).getLast? with
      | some character =>
          rw [later] at others
          exact others
      | none =>
          rw [Option.none_or, List.getLast?_cons]
          cases last : segment.text.getLast? with
          | none => exact absurd (List.getLast?_eq_none_iff.mp last) own.1
          | some character =>
              rw [last] at own
              exact own.2

/-- What is read along characters that stand for themselves begins with them. -/
theorem reading_map_char_append_iff
    {written : Text}
    {shape : Shape}
    {path rest : Text}
    {values : List Text} :
    Shape.Reading (written.map .char ++ shape) path values rest ↔
      ∃ more, path = written ++ more ∧ Shape.Reading shape more values rest := by
  induction written generalizing path with
  | nil => simp
  | cons character written ih =>
      rw [List.map_cons, List.cons_append]
      constructor
      · rintro ⟨_⟩
        rename_i others
        obtain ⟨more, split, reading⟩ := ih.mp others
        exact ⟨more, by rw [split, List.cons_append], reading⟩
      · rintro ⟨more, rfl, reading⟩
        exact .char character (ih.mpr ⟨more, rfl, reading⟩)

/-- What is read along segments are texts that fit them, and the values are the captured ones. -/
theorem reading_shapeOf_iff
    {segments : List Segment}
    {path rest : Text}
    {values : List Text} :
    Shape.Reading (shapeOf segments) path values rest ↔
      ∃ texts, List.Forall₂ Fits segments texts ∧ path = join texts ++ rest ∧
        values = captured segments texts := by
  induction segments generalizing path values with
  | nil =>
      rw [shapeOf_nil]
      constructor
      · rintro ⟨_⟩
        exact ⟨[], .nil, rfl, rfl⟩
      · rintro ⟨texts, ⟨⟩, rfl, rfl⟩
        exact .done _
  | cons segment segments ih =>
      rw [shapeOf_cons, List.cons_append]
      cases segment with
      | literal text =>
          constructor
          · rintro ⟨_⟩
            rename_i behind
            obtain ⟨more, rfl, reading⟩ := reading_map_char_append_iff.mp behind
            obtain ⟨texts, fit, rfl, rfl⟩ := ih.mp reading
            exact ⟨_ :: texts, .cons rfl fit, by simp, rfl⟩
          · rintro ⟨_, ⟨⟩, rfl, rfl⟩
            rename_i written texts first fit
            obtain rfl : written = Component.path.encodeLiteral text := first
            rw [join_cons, List.append_assoc]
            exact .char '/' (reading_map_char_append_iff.mpr
              ⟨_, rfl, ih.mpr ⟨texts, fit, rfl, rfl⟩⟩)
      | braced body =>
          constructor
          · rintro ⟨_⟩
            rename_i behind
            cases behind with
            | value nonempty segment others =>
                obtain ⟨texts, fit, rfl, rfl⟩ := ih.mp others
                exact ⟨_ :: texts, .cons ⟨nonempty, segment⟩ fit, by simp, rfl⟩
          · rintro ⟨_, ⟨⟩, rfl, rfl⟩
            rename_i value texts first fit
            rw [join_cons, List.append_assoc]
            exact .char '/' (.value first.1 first.2 (ih.mpr ⟨texts, fit, rfl, rfl⟩))

/-- Two beginnings without a slash of one text are the same where a segment ends behind them. -/
theorem eq_of_append_eq_append
    {first second firstRest secondRest : Text}
    (same : first ++ firstRest = second ++ secondRest)
    (firstSegment : '/' ∉ first)
    (secondSegment : '/' ∉ second)
    (firstEnds : Shape.EndsSegment firstRest)
    (secondEnds : Shape.EndsSegment secondRest) :
    first = second ∧ firstRest = secondRest := by
  have slashes : first.count '/' = second.count '/' := by
    rw [List.count_eq_zero_of_not_mem firstSegment, List.count_eq_zero_of_not_mem secondSegment]
  obtain rfl := Shape.rest_eq_of_count_eq same slashes firstEnds secondEnds
  exact ⟨List.append_cancel_right same, rfl⟩

theorem ne_nil_of_fits
    {segment : Segment}
    {text : Text}
    (valid : segment.IsValid)
    (fit : segment.Fits text) :
    text ≠ [] := by
  cases segment with
  | literal literal =>
      rw [show text = _ from fit]
      exact Component.encodeLiteral_ne_nil valid.1
  | braced body => exact fit.1

theorem slash_not_mem_of_fits
    {segment : Segment}
    {text : Text}
    (valid : segment.IsValid)
    (fit : segment.Fits text) :
    '/' ∉ text := by
  cases segment with
  | literal literal =>
      rw [show text = _ from fit]
      exact Component.slash_not_mem_encodeLiteral valid.2.1
  | braced body => exact fit.2

/-- A path fits valid segments in one way. -/
theorem texts_unique
    {segments : List Segment}
    (valid : ∀ segment ∈ segments, segment.IsValid)
    {first second : List Text}
    {firstRest secondRest : Text}
    (firstFit : List.Forall₂ Fits segments first)
    (secondFit : List.Forall₂ Fits segments second)
    (firstEnds : Shape.EndsSegment firstRest)
    (secondEnds : Shape.EndsSegment secondRest)
    (same : join first ++ firstRest = join second ++ secondRest) :
    first = second ∧ firstRest = secondRest := by
  induction firstFit generalizing second with
  | nil =>
      cases secondFit
      exact ⟨rfl, same⟩
  | cons fit others ih =>
      cases secondFit with
      | cons secondFit secondOthers =>
          have own := valid _ (List.mem_cons_self ..)
          rw [join_cons, join_cons, List.cons_append, List.cons_append, List.cons_append,
            List.cons_append, List.append_assoc, List.append_assoc] at same
          injection same with _ same
          obtain ⟨rfl, behind⟩ := eq_of_append_eq_append same (slash_not_mem_of_fits own fit)
            (slash_not_mem_of_fits own secondFit) (endsSegment_join_append _ firstEnds)
            (endsSegment_join_append _ secondEnds)
          have further := fun other present => valid other (List.mem_cons_of_mem _ present)
          obtain ⟨rfl, rest⟩ := ih further secondOthers behind
          exact ⟨rfl, rest⟩

/-- The shape of valid segments does not end with a slash. -/
theorem getLast?_shapeOf
    {segments : List Segment}
    (valid : ∀ segment ∈ segments, segment.IsValid) :
    (shapeOf segments).getLast? ≠ some (.char '/') := by
  induction segments with
  | nil => simp
  | cons segment segments ih =>
      have others := ih fun other present => valid other (List.mem_cons_of_mem _ present)
      have own := valid segment (List.mem_cons_self ..)
      have nonempty : segment.shape ≠ [] := by
        cases segment with
        | literal text =>
            rw [shape, ne_eq, List.map_eq_nil_iff]
            exact Component.encodeLiteral_ne_nil own.1
        | braced body => exact List.cons_ne_nil _ _
      have noSlash : .char '/' ∉ segment.shape := by
        cases segment with
        | literal text =>
            simpa [shape] using Component.slash_not_mem_encodeLiteral own.2.1
        | braced body => simp [shape]
      intro ends
      rw [shapeOf_cons, List.getLast?_append, List.getLast?_cons] at ends
      cases later : (shapeOf segments).getLast? with
      | some atom =>
          rw [later] at ends
          exact others (later.trans ends)
      | none =>
          rw [later, Option.none_or, Option.some.injEq] at ends
          cases last : segment.shape.getLast? with
          | none => exact nonempty (List.getLast?_eq_none_iff.mp last)
          | some atom =>
              rw [last] at ends
              apply noSlash
              rw [← ends]
              exact List.mem_of_getLast? last

/-- A slash at the end of a template of segments does not show in its shape. -/
theorem dropSlash_shapeOf
    {segments : List Segment}
    (valid : ∀ segment ∈ segments, segment.IsValid)
    (slash : Bool) :
    Shape.dropSlash (shapeOf segments ++ if slash then [.char '/'] else []) =
      shapeOf segments := by
  cases slash with
  | false =>
      rw [if_neg (by decide), List.append_nil, Shape.dropSlash,
        if_neg (getLast?_shapeOf valid)]
  | true =>
      rw [if_pos rfl, Shape.dropSlash, if_pos List.getLast?_concat, List.dropLast_concat]

end Segment
end Uri
end ResourceRouting
