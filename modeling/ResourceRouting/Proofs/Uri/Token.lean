import ResourceRouting.Uri.Pattern

/-!
# Tokens of expressions

The expression of a template is put together from characters that stand for themselves and from
the expressions of variables in parentheses.  A slash that ends it is dropped.
-/

namespace ResourceRouting
namespace Uri

/-- What the expression of a template is put together from. -/
inductive Token
  /-- A character that stands for itself. -/
  | char (character : Char)
  /-- The expression of a variable, in parentheses. -/
  | group (expression : Text)
  deriving DecidableEq, Repr

namespace Token

/-- The text of a token in an expression. -/
def expression : Token → Text
  | char character => Template.escapeExpression [character]
  | group expression => '(' :: expression ++ [')']

/-- The tokens without the slash at their end, if there is one. -/
def dropSlash (tokens : List Token) : List Token :=
  if tokens.getLast? = some (.char '/') then tokens.dropLast else tokens

theorem mem_of_mem_dropSlash
    {tokens : List Token}
    {token : Token}
    (present : token ∈ dropSlash tokens) :
    token ∈ tokens := by
  unfold dropSlash at present
  split at present
  · exact List.dropLast_subset _ present
  · exact present

theorem dropSlash_cons
    {tokens : List Token}
    (nonempty : tokens ≠ [])
    (first : Token) :
    dropSlash (first :: tokens) = first :: dropSlash tokens := by
  unfold dropSlash
  rw [List.getLast?_cons_of_ne_nil nonempty, List.dropLast_cons_of_ne_nil nonempty]
  split <;> rfl

theorem dropSlash_append
    {second : List Token}
    (nonempty : second ≠ [])
    (first : List Token) :
    dropSlash (first ++ second) = first ++ dropSlash second := by
  induction first with
  | nil => rfl
  | cons token first ih =>
      rw [List.cons_append, dropSlash_cons (List.append_ne_nil_of_right_ne_nil _ nonempty), ih,
        List.cons_append]

theorem dropSlash_group_cons (expression : Text) (tokens : List Token) :
    dropSlash (group expression :: tokens) = group expression :: dropSlash tokens := by
  cases tokens with
  | nil => rfl
  | cons token tokens => exact dropSlash_cons (List.cons_ne_nil _ _) _

theorem expression_ne_nil (token : Token) : token.expression ≠ [] := by
  cases token with
  | char character =>
      simp only [expression, Template.escapeExpression, List.flatMap_cons, List.flatMap_nil,
        List.append_nil]
      split <;> exact List.cons_ne_nil _ _
  | group text => exact List.cons_ne_nil _ _

/-- The text of a token ends with a slash exactly if the token is one. -/
theorem getLast?_expression_iff (token : Token) :
    token.expression.getLast? = some '/' ↔ token = .char '/' := by
  cases token with
  | char character =>
      have last : (Token.char character).expression.getLast? = some character := by
        simp only [expression, Template.escapeExpression, List.flatMap_cons, List.flatMap_nil,
          List.append_nil]
        split <;> rfl
      rw [last, Option.some.injEq, Token.char.injEq]
  | group text =>
      have last : (Token.group text).expression.getLast? = some ')' := List.getLast?_concat
      simp [last]

theorem getLast?_flatMap_expression_iff (tokens : List Token) :
    (tokens.flatMap expression).getLast? = some '/' ↔ tokens.getLast? = some (.char '/') := by
  rcases tokens.eq_nil_or_concat with rfl | ⟨front, last, rfl⟩
  · simp
  · rw [List.concat_eq_append, List.flatMap_append, List.flatMap_singleton,
      List.getLast?_append, List.getLast?_concat, Option.some.injEq, ← getLast?_expression_iff]
    cases ends : last.expression.getLast? with
    | none => exact absurd (List.getLast?_eq_none_iff.mp ends) (expression_ne_nil last)
    | some character => rfl

/-- The slash that ends the tokens is dropped from their text. -/
theorem flatMap_expression_dropSlash (tokens : List Token) :
    (dropSlash tokens).flatMap expression =
      if (tokens.flatMap expression).getLast? = some '/' then
        (tokens.flatMap expression).dropLast
      else
        tokens.flatMap expression := by
  simp only [getLast?_flatMap_expression_iff, dropSlash]
  split
  · rename_i slash
    obtain ⟨front, rfl⟩ := List.getLast?_eq_some_iff.mp slash
    have itself : (Token.char '/').expression = ['/'] := by decide
    rw [List.flatMap_append, List.flatMap_singleton, itself, List.dropLast_concat,
      List.dropLast_concat]
  · rfl

end Token
end Uri
end ResourceRouting
