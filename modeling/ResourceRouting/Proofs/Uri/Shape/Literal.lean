import ResourceRouting.Proofs.Uri.Order
import ResourceRouting.Proofs.Uri.Shape.Pattern

/-!
# Patterns of literal paths

A shape that reads a text has at most as many characters that stand for themselves as the text
has, and as many only if it is the text itself.  A pattern with the expression of a path that
needs no escapes is therefore preferred to all others that match the path.
-/

namespace ResourceRouting
namespace Uri

namespace Shape

@[simp]
theorem charCount_char (character : Char) (shape : Shape) :
    charCount (.char character :: shape) = shape.charCount + 1 := by
  simp [charCount]

@[simp]
theorem charCount_value (shape : Shape) :
    charCount (.value :: shape) = shape.charCount := by
  simp [charCount]

/-- A reading takes at least the characters that stand for themselves. -/
theorem Reading.charCount_le
    {shape : Shape}
    {text rest : Text}
    {values : List Text}
    (reading : Reading shape text values rest) :
    shape.charCount + rest.length ≤ text.length := by
  induction reading with
  | done rest => simp [charCount]
  | char character _ ih =>
      rw [charCount_char, List.length_cons]
      omega
  | value _ _ _ ih =>
      rw [charCount_value, List.length_append]
      omega

/-- A shape that has all characters of a text that it reads is the text itself. -/
theorem Reading.eq_map_char
    {shape : Shape}
    {text rest : Text}
    {values : List Text}
    (reading : Reading shape text values rest)
    (all : text.length ≤ shape.charCount) :
    shape = text.map .char := by
  induction reading with
  | done rest =>
      rw [charCount, List.countP_nil, Nat.le_zero, List.length_eq_zero_iff] at all
      rw [all]
      rfl
  | char character _ ih =>
      rw [charCount_char, List.length_cons] at all
      rw [List.map_cons, ih (Nat.le_of_succ_le_succ all)]
  | value nonempty _ others _ =>
      -- A value takes a character that does not stand for itself.
      have longer := List.length_pos_iff.mpr nonempty
      have fewer := others.charCount_le
      rw [charCount_value, List.length_append] at all
      omega

/-- A shape that matches a text has no more characters than the text. -/
theorem charCount_le_of_match?
    {shape : Shape}
    {path : Text}
    {found : PathMatch}
    (matched : shape.match? path = some found) :
    shape.charCount ≤ path.length := by
  obtain ⟨values, rest, _, reading, _, _⟩ := exists_reading_of_match? matched
  exact Nat.le_trans (Nat.le_add_right _ _) reading.charCount_le

/-- A shape that matches a text and has all its characters is the text itself. -/
theorem eq_map_char_of_match?
    {shape : Shape}
    {path : Text}
    {found : PathMatch}
    (matched : shape.match? path = some found)
    (all : path.length ≤ shape.charCount) :
    shape = path.map .char := by
  obtain ⟨values, rest, _, reading, _, _⟩ := exists_reading_of_match? matched
  exact reading.eq_map_char all

@[simp]
theorem charCount_map_char (text : Text) : charCount (text.map .char) = text.length := by
  induction text with
  | nil => rfl
  | cons character text ih => rw [List.map_cons, charCount_char, ih, List.length_cons]

@[simp]
theorem valueCount_map_char (text : Text) : valueCount (text.map .char) = 0 := by
  simp [valueCount, List.count_eq_zero]

/-- A text is read along its own characters. -/
theorem reading_map_char (text rest : Text) : Reading (text.map .char) (text ++ rest) [] rest := by
  induction text with
  | nil => exact .done rest
  | cons character text ih => exact .char character ih

/-- A text is matched along its own characters, and nothing is left. -/
theorem match?_map_char (text : Text) : match? (text.map .char) text = some ⟨[], none⟩ := by
  have reading := reading_map_char text []
  rw [List.append_nil] at reading
  refine match?_of_reading reading rfl fun others other => ?_
  apply List.eq_nil_of_length_eq_zero
  rw [other.length_values, valueCount_map_char]

end Shape

namespace Pattern

/-- A path that needs no escapes has no braces. -/
theorem isBrace_eq_false_of_encodeLiteral
    {path : Text}
    (unescaped : Component.path.encodeLiteral path = path) :
    ∀ character ∈ path, Template.isBrace character = false := by
  intro character present
  rw [← unescaped] at present
  rcases (Component.isLegal_encodeLiteral path).allows_of_mem (by decide) present with
    rfl | allowed
  · decide
  · cases brace : Template.isBrace character with
    | false => rfl
    | true =>
        simp only [Template.isBrace, Bool.or_eq_true, decide_eq_true_eq] at brace
        rcases brace with rfl | rfl <;> exact absurd allowed (by decide)

/-- The pattern of a path that needs no escapes and does not end with a slash follows the path. -/
theorem follows_of_encodeLiteral
    {path : Text}
    {pattern : Pattern}
    (slash : path.head? = some '/')
    (unslashed : path.getLast? ≠ some '/')
    (unescaped : Component.path.encodeLiteral path = path)
    (compiled : compile path = .ok pattern) :
    pattern.Follows (path.map .char) := by
  obtain ⟨rest, rfl⟩ := List.head?_eq_some_iff.mp slash
  have shaped := Template.HasShape.literal (isBrace_eq_false_of_encodeLiteral unescaped)
  rw [unescaped] at shaped
  have kept : Shape.dropSlash (('/' :: rest).map .char) = ('/' :: rest).map .char := by
    rw [Shape.dropSlash, if_neg]
    intro ends
    rw [List.getLast?_map, Option.map_eq_some_iff] at ends
    obtain ⟨character, last, same⟩ := ends
    cases same
    exact unslashed last
  have follows := (follows_of_hasShape shaped compiled).2
  rwa [kept] at follows

/-- The pattern of the characters of a path precedes all other patterns that match the path. -/
theorem precedes_of_follows
    {path : Text}
    {literal other : Pattern}
    {shape : Shape}
    {found : PathMatch}
    (nonempty : path ≠ [])
    (literalCompiled : literal.IsCompiled)
    (literalFollows : literal.Follows (path.map .char))
    (otherCompiled : other.IsCompiled)
    (otherFollows : other.Follows shape)
    (matched : other.match? path = some found)
    (differ : other.same literal = false) :
    literal.precedes other = true := by
  rw [otherFollows.match? path nonempty] at matched
  have fewer : other.literalCount < literal.literalCount := by
    rw [otherFollows.literalCount, literalFollows.literalCount, Shape.charCount_map_char]
    refine Nat.lt_of_le_of_ne (Shape.charCount_le_of_match? matched) fun all => ?_
    have itself := Shape.eq_map_char_of_match? matched (Nat.le_of_eq all.symm)
    simp [same, otherFollows.expression, literalFollows.expression, itself] at differ
  rw [precedes_iff, order, literalCompiled.isEmpty_of_follows literalFollows,
    otherCompiled.isEmpty_of_follows otherFollows]
  simp [Nat.compare_eq_lt.mpr fewer]

end Pattern
end Uri
end ResourceRouting
