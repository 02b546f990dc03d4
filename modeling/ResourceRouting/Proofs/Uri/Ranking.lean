import ResourceRouting.Proofs.Uri.Order
import ResourceRouting.Proofs.Uri.Token.Reading

/-!
# Ranks and equality of patterns

Patterns are equal when their expressions are, and ranked by what they are put together from.  What
has been read from an expression tells how many characters and variables are in it, so that equal
patterns have equal ranks, if every expression of a variable is one in parentheses.
-/

namespace ResourceRouting

namespace Regex.Expr

/-- The expressions that have been joined from the left. -/
def factors : Expr → List Expr
  | seq first second => first.factors ++ [second]
  | single => [single]

theorem factors_foldl_seq (first : Expr) (rest : List Expr) :
    (rest.foldl seq first).factors = first.factors ++ rest := by
  induction rest generalizing first with
  | nil => exact (List.append_nil _).symm
  | cons second rest ih =>
      rw [List.foldl_cons, ih, factors, List.append_assoc]
      rfl

end Regex.Expr

namespace Uri

open Regex

namespace Token

/-- Whether a token is the expression of a variable. -/
def isGroup : Token → Bool
  | char _ => false
  | group _ => true

/-- How many of some tokens are characters. -/
def charCount (tokens : List Token) : Nat :=
  tokens.countP (!·.isGroup)

/-- How many of some tokens are expressions of variables. -/
def variableCount (tokens : List Token) : Nat :=
  tokens.countP (·.isGroup)

theorem charCount_append (first second : List Token) :
    charCount (first ++ second) = charCount first + charCount second :=
  List.countP_append

theorem charCount_group_cons (expression : Text) (tokens : List Token) :
    charCount (group expression :: tokens) = charCount tokens := rfl

/-- Whether an expression is a group. -/
def isGroupExpr : Expr → Bool
  | .group _ _ => true
  | _ => false

/-- The expressions that tokens are read as tell which of the tokens are characters. -/
theorem map_isGroupExpr_exprs (next : Nat) (tokens : List Token) :
    (exprs next tokens).map isGroupExpr = tokens.map isGroup := by
  induction tokens generalizing next with
  | nil => rfl
  | cons token tokens ih =>
      rw [exprs, List.map_cons, List.map_cons, ih]
      cases token <;> rfl

/-- The whole expression of some tokens tells what they are read as. -/
theorem exprs_eq_of_wholeExpr_eq
    {first second : List Token}
    {next last final : Nat}
    (same : Reader.wholeExpr (exprs next first ++ [Reader.remainderExpr last]) =
      Reader.wholeExpr (exprs next second ++ [Reader.remainderExpr final])) :
    exprs next first = exprs next second := by
  have factored : ∀ (tokens : List Token) (behind : Nat),
      (Expr.concat (exprs next tokens ++ [Reader.remainderExpr behind])).factors =
        exprs next tokens ++ [Reader.remainderExpr behind] := by
    intro tokens behind
    cases tokens with
    | nil => rfl
    | cons token tokens =>
        rw [exprs, List.cons_append, Expr.concat, Expr.factors_foldl_seq]
        cases token <;> rfl
  have joined : Expr.concat (exprs next first ++ [Reader.remainderExpr last]) =
      Expr.concat (exprs next second ++ [Reader.remainderExpr final]) := by
    injection same with front
    injection front
  have parts := congrArg Expr.factors joined
  rw [factored, factored] at parts
  exact (List.append_inj' parts rfl).1

/-- Tokens of the same kinds are as many characters and variables. -/
theorem counts_eq_of_map_isGroup_eq
    {first second : List Token}
    (same : first.map isGroup = second.map isGroup) :
    charCount first = charCount second ∧ variableCount first = variableCount second := by
  have chars : ∀ tokens : List Token, charCount tokens = (tokens.map isGroup).countP (!·) := by
    intro tokens
    rw [List.countP_map]
    rfl
  have groups : ∀ tokens : List Token, variableCount tokens = (tokens.map isGroup).countP id := by
    intro tokens
    rw [List.countP_map]
    rfl
  rw [chars, chars, groups, groups, same]
  exact ⟨rfl, rfl⟩

theorem charCount_dropSlash (tokens : List Token) :
    charCount (dropSlash tokens) =
      if (tokens.flatMap expression).getLast? = some '/' then charCount tokens - 1
      else charCount tokens := by
  simp only [getLast?_flatMap_expression_iff, dropSlash]
  split
  · rename_i slash
    obtain ⟨front, rfl⟩ := List.getLast?_eq_some_iff.mp slash
    simp [charCount, isGroup]
  · rfl

theorem variableCount_dropSlash (tokens : List Token) :
    variableCount (dropSlash tokens) = variableCount tokens := by
  unfold dropSlash
  split
  · rename_i slash
    obtain ⟨front, rfl⟩ := List.getLast?_eq_some_iff.mp slash
    simp [variableCount, isGroup]
  · rfl

end Token

namespace Template

/-- The characters of parts that stand for themselves are those among their tokens. -/
theorem foldr_partLiteralCount_eq (parts : List Part) :
    parts.foldr (fun part count => partLiteralCount part + count) 0 =
      Token.charCount (parts.flatMap Part.tokens) := by
  induction parts with
  | nil => rfl
  | cons part parts ih =>
      have own : partLiteralCount part = Token.charCount part.tokens := by
        cases part with
        | literal text =>
            simp [partLiteralCount, Part.tokens, Token.charCount, List.countP_map,
              Function.comp_def, Token.isGroup]
        | «variable» name expression groups => rfl
      rw [List.foldr_cons, ih, own, List.flatMap_cons, Token.charCount_append]

/-- The characters of a template that stand for themselves are those among its tokens. -/
theorem literalCount_ofParts (text : Text) (parts : List Part) :
    (ofParts text parts).literalCount =
      Token.charCount (Token.dropSlash (parts.flatMap Part.tokens)) := by
  rw [Token.charCount_dropSlash, ← flatMap_partExpression_eq, ← foldr_partLiteralCount_eq]
  simp only [ofParts]
  split <;> rfl

/-- The variables of a template are those among its tokens. -/
theorem length_names_ofParts (text : Text) (parts : List Part) :
    (ofParts text parts).names.length =
      Token.variableCount (Token.dropSlash (parts.flatMap Part.tokens)) := by
  rw [names_ofParts, Token.variableCount_dropSlash]
  induction parts with
  | nil => rfl
  | cons part parts ih =>
      rw [Token.variableCount] at ih ⊢
      rw [List.flatMap_cons, List.countP_append, ← ih]
      cases part with
      | literal text => simp [partNames, Part.tokens, List.countP_map, Token.isGroup]
      | «variable» name expression groups =>
          simp [partNames, Part.tokens, Token.isGroup, Nat.add_comm]

end Template

namespace Pattern

/--
Compiled patterns that are the same have one rank, if the expressions of their variables are
expressions in parentheses as well.
-/
theorem IsCompiled.order_eq_eq_of_same
    {first second : Pattern}
    (firstCompiled : first.IsCompiled)
    (secondCompiled : second.IsCompiled)
    (firstEnclosable : Template.IsEnclosable first.text)
    (secondEnclosable : Template.IsEnclosable second.text)
    (same : first.same second = true) :
    first.order second = .eq := by
  obtain ⟨sameEmpty, sameMatcher⟩ := firstCompiled.matcher_eq_of_same secondCompiled same
  cases filled : first.isEmpty with
  | true => exact order_eq_eq_iff.mpr (.inl ⟨filled, sameEmpty.symm.trans filled⟩)
  | false =>
      have secondFilled := sameEmpty.symm.trans filled
      obtain ⟨parts, tokens, _, template, rfl, _, matcher⟩ :=
        firstCompiled.exists_parts firstEnclosable (by rintro rfl; cases filled)
      obtain ⟨parts', tokens', _, template', rfl, _, matcher'⟩ :=
        secondCompiled.exists_parts secondEnclosable (by rintro rfl; cases secondFilled)
      have whole := Option.some.inj (matcher.symm.trans (sameMatcher.trans matcher'))
      have kinds := congrArg (List.map Token.isGroupExpr)
        (Token.exprs_eq_of_wholeExpr_eq (Regex.mk.inj whole))
      rw [Token.map_isGroupExpr_exprs, Token.map_isGroupExpr_exprs] at kinds
      obtain ⟨chars, values⟩ := Token.counts_eq_of_map_isGroup_eq kinds
      refine order_eq_eq_iff.mpr (.inr ⟨filled, secondFilled, ?_, ?_, of_decide_eq_true same⟩)
      · rw [literalCount, literalCount, template, template', Template.literalCount_ofParts,
          Template.literalCount_ofParts, chars]
      · rw [names, names, template, template', Template.length_names_ofParts,
          Template.length_names_ofParts, values]

/-- Compiled patterns of one rank are the same. -/
theorem IsCompiled.same_of_order_eq_eq
    {first second : Pattern}
    (firstCompiled : first.IsCompiled)
    (secondCompiled : second.IsCompiled)
    (equal : first.order second = .eq) :
    first.same second = true := by
  rcases order_eq_eq_iff.mp equal with ⟨empty, otherEmpty⟩ | ⟨_, _, _, _, expressions⟩
  · rw [firstCompiled.eq_empty empty, secondCompiled.eq_empty otherEmpty]
    rfl
  · exact decide_eq_true expressions

/-- Ranks that are equal in the order are equal. -/
theorem Rank.eq_of_order_eq_eq {first second : Rank} (equal : Rank.order first second = .eq) :
    first = second := by
  obtain ⟨last, literals, occurrences, expression⟩ := first
  obtain ⟨last', literals', occurrences', expression'⟩ := second
  simp only [Rank.order, compareLex, compareOn, Ordering.then_eq_eq, Nat.compare_eq_eq,
    compareText_eq_iff] at equal
  obtain ⟨sameLast, rfl, rfl, rfl⟩ := equal
  have bools : ∀ one other : Bool, compare one other = .eq → one = other := by decide
  rw [bools _ _ sameLast]

theorem IsCompiled.expression_rank {pattern : Pattern} (compiled : pattern.IsCompiled) :
    pattern.rank.expression = pattern.expression := by
  cases filled : pattern.isEmpty with
  | true =>
      rw [compiled.eq_empty filled]
      rfl
  | false => rw [rank, filled]; rfl

section Sorting

theorem perm_insert (pattern : Pattern) (patterns : List Pattern) :
    (insert pattern patterns).Perm (pattern :: patterns) := by
  induction patterns with
  | nil => exact .refl _
  | cons other patterns ih =>
      rw [insert]
      split
      · exact (ih.cons other).trans (.swap pattern other patterns)
      · exact .refl _

theorem perm_sort (patterns : List Pattern) : (sort patterns).Perm patterns := by
  induction patterns with
  | nil => exact .refl _
  | cons pattern patterns ih => exact (perm_insert pattern _).trans (ih.cons pattern)

/-- Patterns that stand in their order. -/
def IsSorted (patterns : List Pattern) : Prop :=
  patterns.Pairwise fun first second => (first.order second).isLE = true

theorem IsSorted.insert {patterns : List Pattern} (sorted : IsSorted patterns)
    (pattern : Pattern) : IsSorted (insert pattern patterns) := by
  induction patterns with
  | nil => exact List.pairwise_singleton _ _
  | cons other patterns ih =>
      obtain ⟨before, others⟩ := List.pairwise_cons.mp sorted
      rw [Pattern.insert]
      split
      · rename_i precedes
        refine List.pairwise_cons.mpr ⟨fun later present => ?_, ih others⟩
        rcases List.mem_cons.mp ((perm_insert pattern patterns).mem_iff.mp present) with
          rfl | behind
        · rw [precedes_iff.mp precedes]
          rfl
        · exact before later behind
      · rename_i follows
        have first : (pattern.order other).isLE = true :=
          Std.OrientedCmp.isGE_iff_isLE.mp
            (Ordering.isGE_iff_ne_lt.mpr fun less => follows (precedes_iff.mpr less))
        refine List.pairwise_cons.mpr ⟨fun later present => ?_, sorted⟩
        rcases List.mem_cons.mp present with rfl | behind
        · exact first
        · exact Std.TransCmp.isLE_trans first (before later behind)

theorem isSorted_sort (patterns : List Pattern) : IsSorted (sort patterns) := by
  induction patterns with
  | nil => exact .nil
  | cons pattern patterns ih => exact ih.insert pattern

/-- The ranks of some patterns in their order do not depend on how the patterns stood before. -/
theorem map_rank_sort_of_perm {patterns others : List Pattern} (perm : patterns.Perm others) :
    (sort patterns).map rank = (sort others).map rank := by
  have ranked : ∀ list : List Pattern,
      ((sort list).map rank).Pairwise
        fun first second => (Rank.order first second).isLE = true := by
    intro list
    rw [List.pairwise_map]
    refine (isSorted_sort list).imp fun {first second} less => ?_
    rwa [← order_eq_rankOrder]
  have samePerm : ((sort patterns).map rank).Perm ((sort others).map rank) :=
    ((perm_sort patterns).trans (perm.trans (perm_sort others).symm)).map rank
  refine List.Perm.eq_of_pairwise (fun first second _ _ less greater => ?_) (ranked patterns)
    (ranked others) samePerm
  exact Rank.eq_of_order_eq_eq (Std.OrientedCmp.isLE_antisymm less greater)

end Sorting

/--
The order ranks some patterns, and agrees with their equality but for patterns with expressions that
are none in parentheses.
-/
structure RanksConsistently (patterns : List Pattern) : Prop where
  /-- The order of two patterns is reversed when they are exchanged. -/
  antisymmetric : ∀ first ∈ patterns, ∀ second ∈ patterns,
    second.order first = (first.order second).swap
  /-- What does not come after a pattern does not come after those behind it. -/
  transitive : ∀ first ∈ patterns, ∀ second ∈ patterns, ∀ third ∈ patterns,
    (first.order second).isLE = true → (second.order third).isLE = true →
      (first.order third).isLE = true
  /-- Patterns of one rank are the same. -/
  same_of_order : ∀ first ∈ patterns, ∀ second ∈ patterns,
    first.order second = .eq → first.same second = true
  /-- Patterns that are the same have one rank. -/
  order_of_same : ∀ first ∈ patterns, ∀ second ∈ patterns,
    Template.IsEnclosable first.text → Template.IsEnclosable second.text →
      first.same second = true → first.order second = .eq
  /-- In their order the patterns have the same expressions, however they stood before. -/
  sorted : ∀ others, patterns.Perm others →
    (sort patterns).map expression = (sort others).map expression

/-- The order is total on compiled patterns, and agrees with their equality. -/
theorem ranksConsistently_of_isCompiled
    {patterns : List Pattern}
    (compiled : ∀ pattern ∈ patterns, pattern.IsCompiled) :
    RanksConsistently patterns where
  antisymmetric _ _ _ _ := Std.OrientedCmp.eq_swap
  transitive _ _ _ _ _ _ := Std.TransCmp.isLE_trans
  same_of_order first firstMember second secondMember :=
    (compiled first firstMember).same_of_order_eq_eq (compiled second secondMember)
  order_of_same first firstMember second secondMember :=
    (compiled first firstMember).order_eq_eq_of_same (compiled second secondMember)
  sorted others perm := by
    have expressions : ∀ list : List Pattern, list.Perm patterns →
        list.map expression = (list.map rank).map Rank.expression := by
      intro list sorted
      rw [List.map_map]
      refine List.map_congr_left fun pattern present => ?_
      exact (compiled pattern (sorted.mem_iff.mp present)).expression_rank.symm
    rw [expressions _ (perm_sort patterns), map_rank_sort_of_perm perm,
      expressions _ ((perm_sort others).trans perm.symm)]

/-- What is computed from two templates holds of the patterns that they have. -/
theorem view_eq_of_compile_both
    {α : Type}
    {text other : Text}
    {first second : Pattern}
    (firstCompiled : compile text = .ok first)
    (secondCompiled : compile other = .ok second)
    (view : Pattern → Pattern → α)
    {value : α}
    (computed : (compile text).toOption.bind (fun pattern =>
      (compile other).toOption.map (view pattern)) = some value) :
    view first second = value := by
  rw [firstCompiled, secondCompiled] at computed
  exact Option.some.inj computed

/-- A template of numbered books. -/
def bookTemplate : Text := "/books/\x7bid: [0-9]+\x7d".toList

/-- A template of numbered books with another name and a slash. -/
def numberTemplate : Text := "/books/\x7bnumber: [0-9]+\x7d/".toList

/-- Neither the name of a variable nor a slash at the end makes another rank. -/
theorem ranksConsistently_books :
    ∃ first second,
      compile bookTemplate = .ok first ∧ compile numberTemplate = .ok second ∧
        RanksConsistently [first, second, empty] ∧
        first.order second = .eq := by
  obtain ⟨first, firstCompiled⟩ : ∃ pattern, compile bookTemplate = .ok pattern :=
    exists_compile (by decide +kernel)
  obtain ⟨second, secondCompiled⟩ : ∃ pattern, compile numberTemplate = .ok pattern :=
    exists_compile (by decide +kernel)
  have consistent : RanksConsistently [first, second, empty] := by
    refine ranksConsistently_of_isCompiled fun pattern present => ?_
    simp only [List.mem_cons, List.not_mem_nil, or_false] at present
    rcases present with rfl | rfl | rfl
    · exact ⟨bookTemplate, firstCompiled⟩
    · exact ⟨numberTemplate, secondCompiled⟩
    · exact ⟨[], rfl⟩
  have firstText : first.text = bookTemplate :=
    view_eq_of_compile firstCompiled text (by decide +kernel)
  have secondText : second.text = numberTemplate :=
    view_eq_of_compile secondCompiled text (by decide +kernel)
  refine ⟨first, second, firstCompiled, secondCompiled, consistent, ?_⟩
  refine consistent.order_of_same first (by simp) second (by simp) ?_ ?_ ?_
  · rw [firstText]
    decide +kernel
  · rw [secondText]
    decide +kernel
  · exact view_eq_of_compile_both firstCompiled secondCompiled same (by decide +kernel)

/-- A template of two variables, the first of which ends in a comment. -/
def hidingTemplate : Text := "/\x7bx: (?x)a#\x7d/\x7by: b\nc\x7d".toList

/-- A template of one variable with the end of one and the beginning of another in a comment. -/
def hiddenTemplate : Text := "/\x7bx: (?x)a#)/(b\nc\x7d".toList

/-- Two variables and one variable may have the same expression, but they have not the same rank. -/
theorem order_eq_lt_of_same :
    ∃ first second,
      compile hidingTemplate = .ok first ∧ compile hiddenTemplate = .ok second ∧
        first.same second = true ∧ first.order second = .lt := by
  obtain ⟨first, firstCompiled⟩ : ∃ pattern, compile hidingTemplate = .ok pattern :=
    exists_compile (by decide +kernel)
  obtain ⟨second, secondCompiled⟩ : ∃ pattern, compile hiddenTemplate = .ok pattern :=
    exists_compile (by decide +kernel)
  exact ⟨first, second, firstCompiled, secondCompiled,
    view_eq_of_compile_both firstCompiled secondCompiled same (by decide +kernel),
    view_eq_of_compile_both firstCompiled secondCompiled order (by decide +kernel)⟩

end Pattern
end Uri
end ResourceRouting
