import ResourceRouting.Proofs.Regex.Enclosing
import ResourceRouting.Proofs.Uri.Compile
import ResourceRouting.Proofs.Uri.Encoding
import ResourceRouting.Proofs.Uri.Shape.Expression
import ResourceRouting.Proofs.Uri.Token

/-!
# Reading expressions of templates

If the expression of each variable of a template is one expression in its parentheses, the whole
expression is read token by token.  It then begins with the slash of the template.
-/

namespace ResourceRouting
namespace Uri

namespace Token

/-- A token that is valid in an expression: in parentheses the expression is one as well. -/
def IsValid : Token → Prop
  | char _ => True
  | group expression =>
      (Regex.ofText? expression).isSome = true ∧
        (Regex.ofText? ('(' :: expression ++ [')'])).isSome = true

open Regex

/-- How many groups a token begins. -/
def opened : Token → Nat
  | char _ => 0
  | group text => ((Reader.readRest .initial text).map Reader.State.nextGroup).getD 1

/-- What a token is read as when the next group gets a given number. -/
def expr (next : Nat) : Token → Expr
  | char character => .char character
  | group text => .group next ((((ofText? text).map Regex.expr).getD .empty).shift next)

/-- What some tokens are read as when the next group gets a given number. -/
def exprs (next : Nat) : List Token → List Expr
  | [] => []
  | token :: tokens => token.expr next :: exprs (next + token.opened) tokens

/-- The number of the next group behind some tokens. -/
def behind (next : Nat) : List Token → Nat
  | [] => next
  | token :: tokens => behind (next + token.opened) tokens

/-- A valid token is read as one piece, whatever stands around it. -/
theorem IsValid.readRest
    {token : Token}
    (valid : token.IsValid)
    {state : Reader.State}
    (plain : state.flags = .initial) :
    ∃ (depth : Nat) (names : List Text), ∀ others result,
      Reader.readRest state (token.expression ++ others) = some result →
        Reader.readRest
            { state with
              nextGroup := state.nextGroup + token.opened
              names := names
              items := .piece ⟨token.expr state.nextGroup, depth⟩ :: state.items }
            others =
          some result := by
  cases token with
  | char character =>
      refine ⟨0, state.names, fun others result found => ?_⟩
      rw [expression, Shape.readRest_escapeExpression plain] at found
      exact found
  | group text =>
      obtain ⟨⟨own, alone⟩, whole, enclosed⟩ :=
        And.imp Option.isSome_iff_exists.mp Option.isSome_iff_exists.mp valid
      obtain ⟨final, run, body, inside⟩ := Reader.readRest_enclosed
        (ofTextWithin?_eq_some_iff.mp alone).1
        (Option.isSome_of_eq_some (ofTextWithin?_eq_some_iff.mp enclosed).1)
      refine ⟨final.body.depth + 1, final.names ++ state.names, fun others result found => ?_⟩
      have count : opened (group text) = final.nextGroup := by rw [opened, run]; rfl
      have piece : expr state.nextGroup (group text) =
          .group state.nextGroup (final.body.expr.shift state.nextGroup) := by
        rw [expr, alone, body]
        rfl
      rw [count, piece, Nat.add_comm]
      exact inside state others result plain (by simpa [expression] using found)

/-- Valid tokens are read as a sequence of pieces. -/
theorem readRest_flatMap_expression
    {tokens : List Token}
    (valid : ∀ token ∈ tokens, token.IsValid)
    {state : Reader.State}
    (plain : state.flags = .initial) :
    ∃ (pieces : List Reader.Piece) (names : List Text),
      pieces.map Reader.Piece.expr = exprs state.nextGroup tokens ∧
        ∀ others result,
          Reader.readRest state (tokens.flatMap expression ++ others) = some result →
            Reader.readRest
                { state with
                  nextGroup := behind state.nextGroup tokens
                  names := names
                  items := (pieces.map .piece).reverse ++ state.items }
                others =
              some result := by
  induction tokens generalizing state with
  | nil => exact ⟨[], state.names, rfl, fun _ _ found => found⟩
  | cons token tokens ih =>
      obtain ⟨depth, names, first⟩ := (valid token (List.mem_cons_self ..)).readRest plain
      obtain ⟨pieces, allNames, same, further⟩ :=
        @ih (fun other present => valid other (List.mem_cons_of_mem _ present))
          { state with
            nextGroup := state.nextGroup + token.opened
            names := names
            items := .piece ⟨token.expr state.nextGroup, depth⟩ :: state.items }
          plain
      refine ⟨⟨token.expr state.nextGroup, depth⟩ :: pieces, allNames, ?_,
        fun others result found => ?_⟩
      · rw [List.map_cons, same]
        rfl
      · rw [List.flatMap_cons, List.append_assoc] at found
        have last := further others result (first _ _ found)
        simpa [behind] using last

/-- The expression of a template is read token by token if the tokens are valid. -/
theorem eq_wholeExpr_of_ofText?
    {tokens : List Token}
    {regex : Regex}
    (valid : ∀ token ∈ tokens, token.IsValid)
    (read : ofText? (Pattern.anchored (tokens.flatMap expression ++ Template.tail)) =
      some regex) :
    regex = ⟨Reader.wholeExpr (exprs 1 tokens ++ [Reader.remainderExpr (behind 1 tokens)])⟩ := by
  obtain ⟨expr⟩ := regex
  obtain ⟨run, _⟩ := ofTextWithin?_eq_some_iff.mp read
  let start := Reader.anchoredState 1 [] []
  obtain ⟨pieces, names, same, inside⟩ :=
    @readRest_flatMap_expression tokens valid start rfl
  let all : List Reader.Piece := pieces ++ [⟨Reader.remainderExpr (behind 1 tokens), 4⟩]
  have whole : expr = Reader.wholeExpr (all.map Reader.Piece.expr) := by
    refine @Reader.eq_wholeExpr_of_read_anchored _ _ (behind 1 tokens + 1) names all run ?_
    intro result found
    rw [List.append_assoc] at found
    have ended := inside _ _ found
    have tail : Template.tail ++ [')', '$'] =
        '(' :: '/' :: '.' :: '*' :: ')' :: '?' :: ')' :: ['$'] := rfl
    rw [tail, Reader.readRest_remainder rfl] at ended
    have last : Reader.anchoredState (behind 1 tokens + 1) names all =
        Reader.State.pushGroup
          { start with
            nextGroup := behind 1 tokens
            names := names
            items := (pieces.map .piece).reverse ++ start.items }
          ⟨Reader.remainderExpr (behind 1 tokens), 4⟩ := by
      simp [Reader.anchoredState, Reader.State.pushGroup, start, all]
    rw [last]
    exact ended
  have allExprs : all.map Reader.Piece.expr =
      exprs 1 tokens ++ [Reader.remainderExpr (behind 1 tokens)] := by
    rw [List.map_append, same]
    rfl
  rw [whole, allExprs]

end Token

namespace Part

/-- The tokens of a part. -/
def tokens : Part → List Token
  | literal text => (Component.path.encodeLiteral text).map .char
  | «variable» _ expression _ => [.group expression]

/-- A part whose expression, if it is a variable, is one in parentheses as well. -/
def IsEnclosable : Part → Prop
  | literal _ => True
  | «variable» _ expression _ => (Regex.ofText? ('(' :: expression ++ [')'])).isSome = true

instance : DecidablePred IsEnclosable
  | literal _ => isTrue trivial
  | «variable» _ expression _ =>
      inferInstanceAs (Decidable ((Regex.ofText? ('(' :: expression ++ [')'])).isSome = true))

theorem flatMap_expression_tokens (part : Part) :
    part.tokens.flatMap Token.expression = Template.partExpression part := by
  cases part with
  | literal text =>
      rw [Template.partExpression, tokens, Template.escapeExpression, List.flatMap_map]
      simp [Token.expression, Template.escapeExpression]
  | «variable» name text groups => rw [tokens, List.flatMap_singleton]; rfl

end Part

namespace Template

theorem flatMap_partExpression_eq (parts : List Part) :
    parts.flatMap partExpression = (parts.flatMap Part.tokens).flatMap Token.expression := by
  rw [List.flatMap_assoc]
  congr 1
  funext part
  exact part.flatMap_expression_tokens.symm

/-- The expression of some parts is that of their tokens, with the remainder behind. -/
theorem expression_ofParts (text : Text) (parts : List Part) :
    (ofParts text parts).expression =
      (Token.dropSlash (parts.flatMap Part.tokens)).flatMap Token.expression ++ tail := by
  rw [Token.flatMap_expression_dropSlash, ← flatMap_partExpression_eq]
  simp only [ofParts]
  split <;> rfl

/--
The expressions of all variables of a template are expressions in parentheses as well.  Others end
in a comment, which a parenthesis does not end.
-/
def IsEnclosable (text : Text) : Prop :=
  ∀ parts, readParts text 0 text = .ok parts → ∀ part ∈ parts, part.IsEnclosable

instance (text : Text) : Decidable (IsEnclosable text) :=
  match read : readParts text 0 text with
  | .error _ => isTrue (by simp [IsEnclosable, read])
  | .ok parts =>
      decidable_of_iff (∀ part ∈ parts, part.IsEnclosable) (by simp [IsEnclosable, read])

/-- The expression of a variable is valid, and its groups are counted alone. -/
theorem exists_regex_of_mem_readParts
    {template text name expression : Text}
    {position groups : Nat}
    {parts : List Part}
    (read : readParts template position text = .ok parts)
    (present : .variable name expression groups ∈ parts) :
    ∃ regex, Regex.ofText? expression = some regex ∧ groups = regex.groupCount := by
  revert present
  refine readParts_induction (motive := fun _ parts =>
    .variable name expression groups ∈ parts →
      ∃ regex, Regex.ofText? expression = some regex ∧ groups = regex.groupCount) ?_ ?_ read
  · intro rest _ present
    cases List.mem_singleton.mp present
  · intro rest inside body after regex others _ _ _ valid ih present
    rcases List.mem_cons.mp present with literal | later
    · cases literal
    · rcases List.mem_cons.mp later with own | behind
      · cases own
        exact ⟨regex, valid, rfl⟩
      · exact ih behind

/-- The tokens of a template are valid. -/
theorem isValid_of_mem_tokens
    {template text : Text}
    {position : Nat}
    {parts : List Part}
    (read : readParts template position text = .ok parts)
    (enclosable : ∀ part ∈ parts, part.IsEnclosable) :
    ∀ token ∈ parts.flatMap Part.tokens, token.IsValid := by
  intro token present
  obtain ⟨part, member, own⟩ := List.mem_flatMap.mp present
  cases part with
  | literal text =>
      obtain ⟨character, _, rfl⟩ := List.mem_map.mp own
      trivial
  | «variable» name expression groups =>
      obtain ⟨regex, valid, _⟩ := exists_regex_of_mem_readParts read member
      obtain rfl := List.mem_singleton.mp own
      exact ⟨by rw [valid]; rfl, enclosable _ member⟩

/-- The tokens of a template begin with its slash, and are more if the template is longer. -/
theorem exists_tokens_eq
    {rest : Text}
    {parts : List Part}
    (read : readParts ('/' :: rest) 0 ('/' :: rest) = .ok parts)
    (longer : rest ≠ []) :
    ∃ tokens, tokens ≠ [] ∧ parts.flatMap Part.tokens = .char '/' :: tokens := by
  have slash : (!isBrace '/') = true := by decide
  rcases readParts_cases read with
    ⟨_, rfl⟩ | ⟨inside, body, _, regex, _, others, _, _, _, _, _, _, rfl⟩
  · refine ⟨(Component.path.encodeLiteral rest).map .char, ?_, ?_⟩
    · simpa using Component.encodeLiteral_ne_nil longer
    · rw [List.flatMap_singleton, Part.tokens, Component.encodeLiteral_slash_cons, List.map_cons]
  · have front : ('/' :: rest).takeWhile (!isBrace ·) = '/' :: rest.takeWhile (!isBrace ·) := by
      rw [List.takeWhile_cons, slash]
      rfl
    refine ⟨(Component.path.encodeLiteral (rest.takeWhile (!isBrace ·))).map .char ++
      .group ((splitVariable body).2.getD defaultExpression) :: others.flatMap Part.tokens,
      by simp, ?_⟩
    rw [List.flatMap_cons, List.flatMap_cons, Part.tokens, front,
      Component.encodeLiteral_slash_cons]
    rfl

end Template

namespace Pattern

open Regex

/-- A compiled pattern consists of parts, and its matcher has been read from their tokens. -/
theorem IsCompiled.exists_parts
    {pattern : Pattern}
    (compiled : pattern.IsCompiled)
    (enclosable : Template.IsEnclosable pattern.text)
    (nonempty : pattern ≠ empty) :
    ∃ parts tokens,
      Template.readParts pattern.text 0 pattern.text = .ok parts ∧
        pattern.template = Template.ofParts pattern.text parts ∧
        tokens = Token.dropSlash (parts.flatMap Part.tokens) ∧
        (∀ token ∈ tokens, token.IsValid) ∧
        pattern.matcher = some ⟨Reader.wholeExpr (Token.exprs 1 tokens ++
          [Reader.remainderExpr (Token.behind 1 tokens)])⟩ := by
  rcases compiled.eq_empty_or with rfl | ⟨rest, text, recompiled⟩
  · exact absurd rfl nonempty
  · obtain ⟨parts, regex, read, valid, same⟩ :=
      (compile_eq_ok_iff (List.cons_ne_nil _ _)).mp recompiled
    rw [Template.normalize_slash] at read valid same
    rw [text] at enclosable ⊢
    rw [Template.expression_ofParts] at valid
    have tokensValid : ∀ token ∈ Token.dropSlash (parts.flatMap Part.tokens), token.IsValid :=
      fun token present => Template.isValid_of_mem_tokens read (enclosable parts read) token
        (Token.mem_of_mem_dropSlash present)
    obtain rfl := Token.eq_wholeExpr_of_ofText? tokensValid valid
    exact ⟨parts, _, read, by rw [same], rfl, tokensValid, by rw [same]⟩

/--
The expression of a pattern begins with a slash, unless the slash is all of the template and has
been dropped.
-/
theorem IsCompiled.exists_wholeExpr
    {pattern : Pattern}
    (compiled : pattern.IsCompiled)
    (enclosable : Template.IsEnclosable pattern.text)
    (nonempty : pattern ≠ empty)
    (longer : pattern.text ≠ ['/']) :
    ∃ others, pattern.matcher = some ⟨Reader.wholeExpr (.char '/' :: others)⟩ := by
  obtain ⟨parts, _, read, _, rfl, _, matcher⟩ := compiled.exists_parts enclosable nonempty
  rcases compiled.eq_empty_or with rfl | ⟨rest, text, _⟩
  · exact absurd rfl nonempty
  · rw [text] at read longer
    obtain ⟨tokens, more, begins⟩ :=
      Template.exists_tokens_eq read fun ended => longer (by rw [ended])
    rw [begins, Token.dropSlash_cons more] at matcher
    exact ⟨_, matcher⟩

end Pattern
end Uri
end ResourceRouting
