import ResourceRouting.Proofs.Uri.Legal
import ResourceRouting.Proofs.Uri.Shape.Template
import ResourceRouting.Proofs.Uri.Token

/-!
# Patterns with a shape

A template with a shape has a pattern unless its expression is too large, and the pattern then
matches as the shape does, where one slash at the end of the shape is dropped.
-/

namespace ResourceRouting
namespace Uri

/-- What an atom is among the tokens of expressions. -/
def Atom.token : Atom → Token
  | char character => .char character
  | value => .group Template.defaultExpression

namespace Shape

open Regex

/-- A shape without the slash at its end, if there is one. -/
def dropSlash (shape : Shape) : Shape :=
  if shape.getLast? = some (.char '/') then shape.dropLast else shape

/-- The number of characters that stand for themselves. -/
def charCount (shape : Shape) : Nat :=
  shape.countP (· ≠ .value)

/-- Characters that stand for themselves are ASCII characters. -/
def IsAscii (shape : Shape) : Prop :=
  ∀ character, .char character ∈ shape → character.toNat < 128

/-- A reading has one value for each place. -/
theorem Reading.length_values
    {shape : Shape}
    {text rest : Text}
    {values : List Text}
    (reading : Reading shape text values rest) :
    values.length = shape.valueCount := by
  induction reading with
  | done rest => rfl
  | char character _ ih =>
      rw [ih, valueCount, valueCount, List.count_cons_of_ne (by simp)]
  | value _ _ _ ih =>
      rw [List.length_cons, ih, valueCount, valueCount, List.count_cons_self]

/-- The groups of a pattern hold the values and the remainder. -/
theorem map_lookup_notes (next : Nat) (values : List Text) (remainder : Option Text) :
    (List.range' next (values.length + 1)).map
        (fun group => (notes next values remainder).lookup group) =
      values.map some ++ [remainder] := by
  induction values generalizing next with
  | nil => cases remainder <;> simp [notes, noteRemainder]
  | cons value values ih =>
      have later : ∀ group ∈ List.range' (next + 1) (values.length + 1),
          (notes next (value :: values) remainder).lookup group =
            (notes (next + 1) values remainder).lookup group := by
        intro group present
        have behind : group ≠ next := by
          have bound := (List.mem_range'_1.mp present).1
          omega
        rw [notes, List.lookup_cons, beq_false_of_ne behind]
      rw [List.length_cons, List.range'_succ, List.map_cons, List.map_congr_left later, ih]
      simp [notes]

/-- A pattern of the expression of a shape matches as the shape does. -/
theorem match?_wholeExpr
    {template : Template}
    {shape : Shape}
    {path : Text}
    (groups : template.groups = List.range' 1 (shape.valueCount + 1))
    (nonempty : path ≠ []) :
    (⟨template, some ⟨Reader.wholeExpr (shape.exprs 1)⟩⟩ : Pattern).match? path =
      shape.match? path := by
  have searched : (⟨template, some ⟨Reader.wholeExpr (shape.exprs 1)⟩⟩ : Pattern).match? path =
      ((⟨Reader.wholeExpr (shape.exprs 1)⟩ : Regex).search? path).map fun notes =>
        .ofList (template.groups.map fun group => notes.lookup group) := by
    cases path with
    | nil => exact absurd rfl nonempty
    | cons character rest => rfl
  rw [searched, search?_wholeExpr, run_exprs, List.map_findSome?, match?]
  apply findSome?_congr
  rintro ⟨values, rest⟩ present
  have reading : Reading shape path values rest := mem_readings_iff.mp present
  simp only [Function.comp_apply, Option.map_map, accept?]
  congr 1
  funext remainder
  rw [Function.comp_apply, groups, ← reading.length_values, map_lookup_notes]
  exact PathMatch.ofList_toList ⟨values.map some, remainder⟩

/-- A shape has the expression of its tokens. -/
theorem flatMap_expression (shape : Shape) :
    shape.flatMap Atom.expression = (shape.map Atom.token).flatMap Token.expression := by
  rw [List.flatMap_map]
  congr 1
  funext atom
  cases atom <;> rfl

theorem getLast?_map_token_iff (shape : Shape) :
    (shape.map Atom.token).getLast? = some (.char '/') ↔ shape.getLast? = some (.char '/') := by
  rw [List.getLast?_map, Option.map_eq_some_iff]
  constructor
  · rintro ⟨_ | _, last, same⟩
    · cases same
      exact last
    · cases same
  · exact fun last => ⟨_, last, rfl⟩

/-- The expression of a shape ends with a slash exactly if the shape does. -/
theorem getLast?_flatMap_expression_iff (shape : Shape) :
    (shape.flatMap Atom.expression).getLast? = some '/' ↔ shape.getLast? = some (.char '/') := by
  rw [flatMap_expression, Token.getLast?_flatMap_expression_iff, getLast?_map_token_iff]

/-- The slash that ends a shape is dropped from its tokens. -/
theorem map_token_dropSlash (shape : Shape) :
    shape.dropSlash.map Atom.token = Token.dropSlash (shape.map Atom.token) := by
  simp only [dropSlash, Token.dropSlash, getLast?_map_token_iff]
  split
  · exact List.map_dropLast
  · rfl

/-- The slash that ends a shape is dropped from the expression. -/
theorem expression_dropSlash (shape : Shape) :
    shape.dropSlash.expression =
      if (shape.flatMap Atom.expression).getLast? = some '/' then
        (shape.flatMap Atom.expression).dropLast ++ Template.tail
      else
        shape.flatMap Atom.expression ++ Template.tail := by
  rw [expression, flatMap_expression, map_token_dropSlash, Token.flatMap_expression_dropSlash,
    ← flatMap_expression]
  split <;> rfl

@[simp]
theorem valueCount_dropSlash (shape : Shape) : shape.dropSlash.valueCount = shape.valueCount := by
  unfold dropSlash
  split
  · rename_i slash
    obtain ⟨front, rfl⟩ := List.getLast?_eq_some_iff.mp slash
    simp [valueCount]
  · rfl

theorem charCount_dropSlash (shape : Shape) :
    shape.dropSlash.charCount =
      if (shape.flatMap Atom.expression).getLast? = some '/' then shape.charCount - 1
      else shape.charCount := by
  simp only [getLast?_flatMap_expression_iff, dropSlash]
  split
  · rename_i slash
    obtain ⟨front, rfl⟩ := List.getLast?_eq_some_iff.mp slash
    simp [charCount]
  · rfl

theorem IsAscii.dropSlash {shape : Shape} (ascii : shape.IsAscii) : shape.dropSlash.IsAscii := by
  intro character present
  unfold Shape.dropSlash at present
  split at present
  · exact ascii character ((List.dropLast_sublist shape).subset present)
  · exact ascii character present

/-- What stands for literal text of a template are ASCII characters. -/
theorem isAscii_map_encodeLiteral (text : Text) :
    IsAscii ((Component.path.encodeLiteral text).map .char) := by
  intro character present
  obtain ⟨written, inText, equal⟩ := List.mem_map.mp present
  cases equal
  exact (Component.isLegal_encodeLiteral text).lt_of_mem inText

end Shape

namespace Template

/-- The shape of a template has ASCII characters and a place for each name. -/
theorem HasShape.isAscii
    {text : Text}
    {shape : Shape}
    {names : List Text}
    (shaped : HasShape text shape names) :
    shape.IsAscii ∧ shape.valueCount = names.length := by
  induction shaped with
  | literal _ =>
      refine ⟨Shape.isAscii_map_encodeLiteral _, ?_⟩
      simp [Shape.valueCount, List.count_eq_zero]
  | @braced text inside body after shape names _ _ _ _ _ ih =>
      constructor
      · intro character present
        rcases List.mem_append.mp present with before | behind
        · exact Shape.isAscii_map_encodeLiteral _ character before
        · rcases List.mem_cons.mp behind with impossible | later
          · cases impossible
          · exact ih.1 character later
      · have none : ((Component.path.encodeLiteral text).map Atom.char).count .value = 0 := by
          simp [List.count_eq_zero]
        rw [Shape.valueCount, List.count_append, none, List.count_cons_self, Nat.zero_add,
          List.length_cons, ← ih.2, Shape.valueCount]

/-- The expression of parts with default expressions is that of their shape. -/
theorem flatMap_partExpression
    {parts : List Part}
    (defaults : ∀ part ∈ parts, part.IsDefault) :
    parts.flatMap partExpression = (parts.flatMap Part.shape).flatMap Atom.expression := by
  induction parts with
  | nil => rfl
  | cons part parts ih =>
      have first : partExpression part = part.shape.flatMap Atom.expression := by
        cases part with
        | literal text =>
            rw [partExpression, Part.shape, escapeExpression, List.flatMap_map]
            simp [Atom.expression, escapeExpression]
        | «variable» name expression groups =>
            have default : expression = defaultExpression := defaults _ (List.mem_cons_self ..)
            rw [partExpression, Part.shape, List.flatMap_singleton, default]
            rfl
      have others := ih fun other present => defaults other (List.mem_cons_of_mem _ present)
      rw [List.flatMap_cons, List.flatMap_cons, List.flatMap_append, first, others]

/-- The characters of parts that stand for themselves are those of their shape. -/
theorem foldr_partLiteralCount (parts : List Part) :
    parts.foldr (fun part count => partLiteralCount part + count) 0 =
      Shape.charCount (parts.flatMap Part.shape) := by
  induction parts with
  | nil => rfl
  | cons part parts ih =>
      have own : partLiteralCount part = Shape.charCount part.shape := by
        cases part with
        | literal text =>
            simp [partLiteralCount, Part.shape, Shape.charCount, List.countP_map,
              Function.comp_def]
        | «variable» name expression groups => rfl
      rw [Shape.charCount] at own ih ⊢
      rw [List.foldr_cons, ih, own, List.flatMap_cons, List.countP_append]

/--
What a template with a shape is compiled to.  It has a pattern if the engine admits the whole
expression.
-/
theorem HasShape.exists_compile
    {rest : Text}
    {shape : Shape}
    {names : List Text}
    (shaped : HasShape ('/' :: rest) shape names) :
    ∃ template, Template.compile ('/' :: rest) = .ok template ∧
      template.text = '/' :: rest ∧ template.names = names ∧
        template.groups = List.range' 1 (names.length + 1) ∧
        template.literalCount = shape.dropSlash.charCount ∧
        template.expression = shape.dropSlash.expression ∧
        ∀ admits : Regex.Expr → Bool, Pattern.compileWithin admits ('/' :: rest) =
          if admits (Regex.Reader.wholeExpr (shape.dropSlash.exprs 1)) then
            .ok ⟨template, some ⟨Regex.Reader.wholeExpr (shape.dropSlash.exprs 1)⟩⟩
          else
            .error (.invalidExpression ('/' :: rest) []) := by
  obtain ⟨parts, read, defaults, shapes, names', groups⟩ :=
    shaped.exists_readParts ('/' :: rest) 0
  have compiled : Template.compile ('/' :: rest) = .ok (ofParts ('/' :: rest) parts) := by
    rw [compile_eq (List.cons_ne_nil _ _), normalize_slash, read]
    rfl
  have fields : (ofParts ('/' :: rest) parts).names = names ∧
      (ofParts ('/' :: rest) parts).groups = List.range' 1 (names.length + 1) ∧
        (ofParts ('/' :: rest) parts).literalCount = shape.dropSlash.charCount ∧
        (ofParts ('/' :: rest) parts).expression = shape.dropSlash.expression := by
    rw [Shape.charCount_dropSlash, Shape.expression_dropSlash, ← shapes,
      ← flatMap_partExpression defaults, ← foldr_partLiteralCount, ← groups 1]
    simp only [ofParts]
    split <;> exact ⟨names', rfl, rfl, rfl⟩
  refine ⟨_, compiled, text_ofParts _ _, fields.1, fields.2.1, fields.2.2.1, fields.2.2.2, ?_⟩
  have notEmpty : (ofParts ('/' :: rest) parts).isEmpty = false := by
    simp [Template.isEmpty]
  intro admits
  rw [Pattern.compileWithin, compiled]
  simp only [Except.bind, Pattern.ofTemplateWithin, notEmpty, Bool.false_eq_true, if_false,
    text_ofParts, fields.2.2.2, Regex.ofTextWithin?, Shape.read_expression, Option.filter_some]
  by_cases admitted : admits (Regex.Reader.wholeExpr (shape.dropSlash.exprs 1)) = true
  · simp only [if_pos admitted, Option.map_some]
  · simp only [if_neg admitted, Option.map_none]

end Template

namespace Pattern

/-- A pattern whose expression is that of a shape. -/
structure Follows (pattern : Pattern) (shape : Shape) : Prop where
  /-- The expression is that of the shape. -/
  expression : pattern.expression = shape.expression
  /-- The characters that stand for themselves are those of the shape. -/
  literalCount : pattern.literalCount = shape.charCount
  /-- There is a name for each place of a value. -/
  length_names : pattern.names.length = shape.valueCount
  /-- The expression is read as that of the shape. -/
  matcher : pattern.matcher = some ⟨Regex.Reader.wholeExpr (shape.exprs 1)⟩
  /-- Paths that are not empty are matched along the shape. -/
  match? : ∀ path, path ≠ [] → pattern.match? path = shape.match? path

/-- A pattern of a text with a shape follows the shape without the slash at its end. -/
theorem follows_of_hasShape
    {rest : Text}
    {shape : Shape}
    {names : List Text}
    {admits : Regex.Expr → Bool}
    {pattern : Pattern}
    (shaped : Template.HasShape ('/' :: rest) shape names)
    (compiled : compileWithin admits ('/' :: rest) = .ok pattern) :
    pattern.names = names ∧ pattern.Follows shape.dropSlash := by
  obtain ⟨template, _, _, names', groups, literals, expression, results⟩ := shaped.exists_compile
  have count := shaped.isAscii.2
  have result := results admits
  rw [compiled] at result
  split at result
  · obtain rfl := Except.ok.inj result
    refine ⟨names', expression, literals, ?_, rfl, fun path nonempty => ?_⟩
    · rw [Pattern.names, names', Shape.valueCount_dropSlash, count]
    · apply Shape.match?_wholeExpr _ nonempty
      rw [groups, Shape.valueCount_dropSlash, count]
  · cases result

end Pattern

namespace Template

/--
A template with a shape is compiled to a pattern that matches along the shape, if the engine admits
what is read from its expression.
-/
theorem HasShape.compile
    {rest : Text}
    {shape : Shape}
    {names : List Text}
    (shaped : HasShape ('/' :: rest) shape names) :
    ∃ template, Template.compile ('/' :: rest) = .ok template ∧
      template.text = '/' :: rest ∧ template.names = names ∧
        template.literalCount = shape.dropSlash.charCount ∧
        Regex.Reader.read (Pattern.anchored template.expression) =
          some (Regex.Reader.wholeExpr (shape.dropSlash.exprs 1)) ∧
        ∀ admits : Regex.Expr → Bool,
          (admits (Regex.Reader.wholeExpr (shape.dropSlash.exprs 1)) = true →
            ∃ pattern, Pattern.compileWithin admits ('/' :: rest) = .ok pattern ∧
              pattern.template = template ∧
                ∀ path, path ≠ [] → pattern.match? path = shape.dropSlash.match? path) ∧
          (admits (Regex.Reader.wholeExpr (shape.dropSlash.exprs 1)) = false →
            Pattern.compileWithin admits ('/' :: rest) =
              .error (.invalidExpression ('/' :: rest) [])) := by
  obtain ⟨template, compiled, text, names', _, literals, expression, results⟩ :=
    shaped.exists_compile
  refine ⟨template, compiled, text, names', literals, ?_, fun admits => ⟨?_, ?_⟩⟩
  · rw [expression, Shape.read_expression]
  · intro admitted
    have result := results admits
    rw [if_pos admitted] at result
    exact ⟨_, result, rfl, (Pattern.follows_of_hasShape shaped result).2.match?⟩
  · intro refused
    rw [results admits, if_neg (by rw [refused]; exact Bool.false_ne_true)]

/-- What is computed from the expression of a template holds of what is read from it. -/
theorem fits_of_read
    {text : Text}
    {template : Template}
    {whole : Regex.Expr}
    (compiled : compile text = .ok template)
    (read : Regex.Reader.read (Pattern.anchored template.expression) = some whole)
    (computed : ((compile text).toOption.bind fun template =>
      (Regex.Reader.read (Pattern.anchored template.expression)).map Regex.Expr.fits) =
        some true) :
    whole.fits = true := by
  rw [compiled] at computed
  simpa [Except.toOption, read] using computed

end Template

namespace Pattern

/-- A compiled pattern with default expressions follows a shape of its text. -/
theorem IsCompiled.exists_follows
    {pattern : Pattern}
    (compiled : pattern.IsCompiled)
    (defaults : Template.UsesDefaults pattern.text)
    (nonempty : pattern ≠ empty) :
    ∃ shape, Template.HasShape pattern.text shape pattern.names ∧
      pattern.Follows shape.dropSlash := by
  rcases compiled.eq_empty_or with rfl | ⟨rest, text, recompiled⟩
  · exact absurd rfl nonempty
  · obtain ⟨parts, _, read, _, _⟩ :=
      (compile_eq_ok_iff (List.cons_ne_nil _ _)).mp recompiled
    rw [Template.normalize_slash] at read
    rw [text] at defaults ⊢
    have shaped := Template.hasShape_of_readParts read (defaults parts read)
    obtain ⟨names, follows⟩ := follows_of_hasShape shaped recompiled
    exact ⟨parts.flatMap Part.shape, names ▸ shaped, follows⟩

/-- A compiled pattern that follows a shape is not the empty one. -/
theorem IsCompiled.isEmpty_of_follows
    {pattern : Pattern}
    {shape : Shape}
    (compiled : pattern.IsCompiled)
    (follows : pattern.Follows shape) :
    pattern.isEmpty = false := by
  cases isEmpty : pattern.isEmpty with
  | false => rfl
  | true =>
      have matcher := follows.matcher
      rw [compiled.eq_empty isEmpty] at matcher
      cases matcher

/-- A pattern that is the same as one that follows a shape follows this shape as well. -/
theorem IsCompiled.follows_of_same
    {pattern other : Pattern}
    {shape : Shape}
    (compiled : pattern.IsCompiled)
    (defaults : Template.UsesDefaults pattern.text)
    (same : pattern.same other = true)
    (follows : other.Follows shape) :
    pattern.Follows shape := by
  have expression : pattern.expression = shape.expression := by
    rw [← follows.expression]
    simpa [Pattern.same] using same
  have nonempty : pattern ≠ empty := by
    rintro rfl
    have bare : shape.flatMap Atom.expression ++ Template.tail = [] := expression.symm
    simp [Template.tail] at bare
  obtain ⟨own, _, ownFollows⟩ := compiled.exists_follows defaults nonempty
  have shapes := Shape.expression_inj (ownFollows.expression.symm.trans expression)
  rwa [shapes] at ownFollows

/--
A compiled pattern with default expressions matches along a shape of its text, if the text does
not end with a slash.
-/
theorem IsCompiled.exists_shape
    {pattern : Pattern}
    (compiled : pattern.IsCompiled)
    (defaults : Template.UsesDefaults pattern.text)
    (unslashed : pattern.text.getLast? ≠ some '/') :
    ∃ shape, Template.HasShape pattern.text shape pattern.names ∧
      ∀ path, path ≠ [] → pattern.text ≠ [] → pattern.match? path = shape.match? path := by
  by_cases nonempty : pattern = empty
  · subst nonempty
    have plain : ∀ character ∈ ([] : Text), Template.isBrace character = false := by simp
    exact ⟨[], .literal plain, fun _ _ other => absurd rfl other⟩
  · obtain ⟨shape, shaped, follows⟩ := compiled.exists_follows defaults nonempty
    have kept : shape.dropSlash = shape := by
      rw [Shape.dropSlash, if_neg fun ends => unslashed (shaped.getLast? ends)]
    exact ⟨shape, shaped, fun path present _ => by rw [follows.match? path present, kept]⟩

end Pattern
end Uri
end ResourceRouting
