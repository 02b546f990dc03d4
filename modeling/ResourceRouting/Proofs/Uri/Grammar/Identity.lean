import ResourceRouting.Proofs.Registry
import ResourceRouting.Proofs.Uri.Grammar.Compiling
import ResourceRouting.Proofs.Uri.Shape.Pattern

/-!
# Patterns of one shape

If all variables have the default expression, the number of variables and the runs of characters
around them make a pattern the one it is.  How a template writes them does not matter.
-/

namespace ResourceRouting
namespace Uri
namespace Template

/-- The first variable among some tokens tells which characters stand before it. -/
theorem run_append_group_inj
    {run otherRun expression other : Text}
    {rest others : List Token}
    (same : run.map Token.char ++ .group expression :: rest =
      otherRun.map .char ++ .group other :: others) :
    run = otherRun ∧ expression = other ∧ rest = others := by
  induction run generalizing otherRun with
  | nil =>
      cases otherRun with
      | nil =>
          obtain ⟨group, behind⟩ := List.cons.inj same
          exact ⟨rfl, Token.group.inj group, behind⟩
      | cons => cases (List.cons.inj same).1
  | cons character run ih =>
      cases otherRun with
      | nil => cases (List.cons.inj same).1
      | cons =>
          obtain ⟨chars, behind⟩ := List.cons.inj same
          obtain ⟨rfl, group, further⟩ := ih behind
          exact ⟨by rw [Token.char.inj chars], group, further⟩

/-- Tokens are those of some runs and some expressions in one way at most. -/
theorem runTokens_inj
    {runs expressions otherRuns others : List Text}
    (between : runs.length = expressions.length + 1)
    (otherBetween : otherRuns.length = others.length + 1)
    (same : runTokens runs expressions = runTokens otherRuns others) :
    runs = otherRuns ∧ expressions = others := by
  -- No group is among characters.
  have bare : ∀ (run front expression : Text) (rest : List Token),
      run.map Token.char ≠ front.map .char ++ .group expression :: rest := by
    intro run front expression rest equal
    have present : Token.group expression ∈ run.map Token.char := by simp [equal]
    simp at present
  induction expressions generalizing runs otherRuns others with
  | nil =>
      obtain ⟨run, rfl⟩ := List.length_eq_one_iff.mp between
      cases others with
      | nil =>
          obtain ⟨otherRun, rfl⟩ := List.length_eq_one_iff.mp otherBetween
          have injective : Function.Injective Token.char := fun _ _ equal => Token.char.inj equal
          rw [injective.list_map same]
          exact ⟨rfl, rfl⟩
      | cons other others =>
          obtain ⟨otherRun, otherRuns, rfl⟩ := List.exists_cons_of_length_eq_add_one otherBetween
          rw [runTokens_cons] at same
          exact absurd same (bare _ _ _ _)
  | cons expression expressions ih =>
      obtain ⟨run, runs, rfl⟩ := List.exists_cons_of_length_eq_add_one between
      rw [runTokens_cons] at same
      cases others with
      | nil =>
          obtain ⟨otherRun, rfl⟩ := List.length_eq_one_iff.mp otherBetween
          exact absurd same.symm (bare _ _ _ _)
      | cons other others =>
          obtain ⟨otherRun, otherRuns, rfl⟩ := List.exists_cons_of_length_eq_add_one otherBetween
          rw [runTokens_cons] at same
          obtain ⟨rfl, rfl, behind⟩ := run_append_group_inj same
          obtain ⟨rfl, rfl⟩ := ih (Nat.succ.inj between) (Nat.succ.inj otherBetween) behind
          exact ⟨rfl, rfl⟩

/-- The variables of a template with default expressions have no groups of their own. -/
theorem Consists.default
    {text first : Text}
    {occurrences : List Occurrence}
    (consists : Consists text first occurrences)
    (defaults : UsesDefaults text) :
    ∀ occurrence ∈ occurrences,
      occurrence.expression = defaultExpression ∧ occurrence.groups = 0 := by
  intro occurrence present
  have part : .variable occurrence.name occurrence.expression occurrence.groups ∈
      partsOf first occurrences := by
    refine List.mem_cons_of_mem _ (List.mem_flatMap.mpr ⟨occurrence, present, ?_⟩)
    exact List.mem_cons_self ..
  have default : occurrence.expression = defaultExpression :=
    defaults _ (consists.readParts_eq text 0) _ part
  obtain ⟨regex, valid, groups⟩ := (consists.valid occurrence present).expression
  obtain ⟨regex', valid', groups'⟩ := exists_ofText?_defaultExpression
  rw [default, valid', Option.some.injEq] at valid
  exact ⟨default, by rw [← groups, ← valid, groups']⟩

/-- The tokens of parts with default expressions are those of their shape. -/
theorem map_token_shape
    {parts : List Part}
    (defaults : ∀ part ∈ parts, part.IsDefault) :
    (parts.flatMap Part.shape).map Atom.token = parts.flatMap Part.tokens := by
  rw [List.map_flatMap]
  apply List.flatMap_congr
  intro part present
  cases part with
  | literal text => simp [Part.shape, Part.tokens, Atom.token]
  | «variable» name expression groups =>
      have default : expression = defaultExpression := defaults _ present
      rw [default]
      rfl

/-- The expression of a template with default expressions tells the runs and the variables. -/
theorem Consists.keptRuns_eq
    {text first other second : Text}
    {occurrences others : List Occurrence}
    (consists : Consists text first occurrences)
    (defaults : UsesDefaults text)
    (consistsOther : Consists other second others)
    (defaultsOther : UsesDefaults other)
    (same : (ofParts text (partsOf first occurrences)).expression =
      (ofParts other (partsOf second others)).expression) :
    occurrences.length = others.length ∧
      keptRuns first occurrences = keptRuns second others := by
  have shaped : ∀ {text first : Text} {occurrences : List Occurrence},
      Consists text first occurrences → UsesDefaults text →
        ∃ shape : Shape,
          (ofParts text (partsOf first occurrences)).expression = shape.expression ∧
            shape.map Atom.token =
              runTokens (keptRuns first occurrences) (occurrences.map Occurrence.expression) := by
    intro text first occurrences consists defaults
    -- The shape keeps the characters and forgets how the template writes them.
    let shape : Shape := (partsOf first occurrences).flatMap Part.shape
    have tokens : shape.dropSlash.map Atom.token =
        Token.dropSlash ((partsOf first occurrences).flatMap Part.tokens) := by
      rw [Shape.map_token_dropSlash, map_token_shape (defaults _ (consists.readParts_eq text 0))]
    refine ⟨shape.dropSlash, ?_, ?_⟩
    · rw [expression_ofParts, Shape.expression, Shape.flatMap_expression, tokens]
    · rw [tokens, tokens_partsOf, dropSlash_runTokens (by simp [length_literalRuns])]
      rfl
  obtain ⟨shape, expression, tokens⟩ := shaped consists defaults
  obtain ⟨otherShape, otherExpression, otherTokens⟩ := shaped consistsOther defaultsOther
  rw [expression, otherExpression] at same
  rw [Shape.expression_inj same, otherTokens] at tokens
  obtain ⟨runs, expressions⟩ := runTokens_inj (by simp [keptRuns, length_literalRuns])
    (by simp [keptRuns, length_literalRuns]) tokens
  have count := congrArg List.length expressions
  rw [List.length_map, List.length_map] at count
  exact ⟨count.symm, runs.symm⟩

/--
Two texts have one shape: both are empty, or their normal forms have equally many variables and the
same runs of characters around them, without a slash at the end.
-/
inductive SameShape : Text → Text → Prop
  /-- The empty text is like itself only. -/
  | empty : SameShape [] []
  /-- The variables are equally many, and the runs are the same. -/
  | filled
      {text first other second : Text}
      {occurrences others : List Occurrence}
      (nonempty : text ≠ [])
      (otherNonempty : other ≠ [])
      (consists : Consists (normalize text) first occurrences)
      (consistsOther : Consists (normalize other) second others)
      (count : occurrences.length = others.length)
      (runs : keptRuns first occurrences = keptRuns second others) :
      SameShape text other

/-- Compiled templates that may differ in their texts and in the names of the variables only. -/
structure Alike (first second : Template) : Prop where
  /-- Both are that of the empty text, or none is. -/
  isEmpty : first.isEmpty = second.isEmpty
  /-- The expressions are the same. -/
  expression : first.expression = second.expression
  /-- Equally many characters stand for themselves. -/
  literalCount : first.literalCount = second.literalCount
  /-- There are equally many variables. -/
  length_names : first.names.length = second.names.length
  /-- The groups are the same. -/
  groups : first.groups = second.groups

theorem Alike.symm {first second : Template} (alike : Alike first second) :
    Alike second first :=
  ⟨alike.isEmpty.symm, alike.expression.symm, alike.literalCount.symm, alike.length_names.symm,
    alike.groups.symm⟩

/-- What is compiled is alike if the variables are equally many and the runs are the same. -/
theorem alike_of_keptRuns_eq
    {text first other second : Text}
    {occurrences others : List Occurrence}
    (filled : text ≠ [])
    (otherFilled : other ≠ [])
    (defaults : ∀ occurrence ∈ occurrences,
      occurrence.expression = defaultExpression ∧ occurrence.groups = 0)
    (defaultsOther : ∀ occurrence ∈ others,
      occurrence.expression = defaultExpression ∧ occurrence.groups = 0)
    (count : occurrences.length = others.length)
    (runs : keptRuns first occurrences = keptRuns second others) :
    Alike (ofParts text (partsOf first occurrences)) (ofParts other (partsOf second others)) := by
  have replicated : ∀ {occurrences : List Occurrence},
      (∀ occurrence ∈ occurrences,
        occurrence.expression = defaultExpression ∧ occurrence.groups = 0) →
      (occurrences.map fun occurrence => '(' :: occurrence.expression ++ [')']) =
          List.replicate occurrences.length ('(' :: defaultExpression ++ [')']) ∧
        occurrences.map Occurrence.groups = List.replicate occurrences.length 0 := by
    intro occurrences defaults
    refine ⟨List.map_eq_replicate_iff.mpr fun occurrence present => ?_,
      List.map_eq_replicate_iff.mpr fun occurrence present => (defaults occurrence present).2⟩
    rw [(defaults occurrence present).1]
  obtain ⟨expressions, groups⟩ := replicated defaults
  obtain ⟨expressionsOther, groupsOther⟩ := replicated defaultsOther
  rw [ofParts_partsOf, ofParts_partsOf]
  refine ⟨?_, ?_, ?_, ?_, ?_⟩
  · simp only [isEmpty, List.isEmpty_eq_false_iff.mpr filled,
      List.isEmpty_eq_false_iff.mpr otherFilled]
  · rw [runs, expressions, expressionsOther, count]
  · rw [runs]
  · rw [List.length_map, List.length_map, count]
  · rw [positions_eq, positions_eq, groups, groupsOther, count]

/-- Texts of one shape are compiled, and what they are compiled to is alike. -/
theorem SameShape.exists_alike
    {text other : Text}
    (shape : SameShape text other)
    (defaults : UsesDefaults (normalize text))
    (defaultsOther : UsesDefaults (normalize other)) :
    ∃ template otherTemplate,
      compile text = .ok template ∧ compile other = .ok otherTemplate ∧
        Alike template otherTemplate := by
  have filled : ∀ {text : Text}, text ≠ [] → normalize text ≠ [] := by
    intro text nonempty
    obtain ⟨rest, normal⟩ := exists_normalize nonempty
    rw [normal]
    exact List.cons_ne_nil _ _
  cases shape with
  | empty => exact ⟨_, _, rfl, rfl, rfl, rfl, rfl, rfl, rfl⟩
  | filled nonempty otherNonempty consists consistsOther count runs =>
      refine ⟨_, _, ?_, ?_, alike_of_keptRuns_eq (filled nonempty) (filled otherNonempty)
        (consists.default defaults) (consistsOther.default defaultsOther) count runs⟩
      · rw [compile_eq nonempty, consists.readParts_eq]
        rfl
      · rw [compile_eq otherNonempty, consistsOther.readParts_eq]
        rfl

end Template

namespace Pattern

open Template (UsesDefaults normalize SameShape Alike)

/-- Whether a template has a pattern depends on what is alike. -/
theorem exists_ofTemplateWithin_of_alike
    {template other : Template}
    {admits : Regex.Expr → Bool}
    {pattern : Pattern}
    (alike : Alike template other)
    (made : ofTemplateWithin admits template = .ok pattern) :
    ∃ otherPattern, ofTemplateWithin admits other = .ok otherPattern := by
  unfold ofTemplateWithin at made ⊢
  rw [← alike.isEmpty, ← alike.expression]
  split at made
  · rename_i isEmpty
    exact ⟨_, if_pos isEmpty⟩
  · rename_i filled
    rw [if_neg filled]
    split at made
    · cases made
    · exact ⟨_, rfl⟩

theorem compile_eq_ofTemplateWithin
    {text : Text}
    {template : Template}
    (compiled : Template.compile text = .ok template) :
    compile text = ofTemplateWithin Regex.Expr.fits template := by
  rw [compile, compileWithin, compiled]
  rfl

theorem template_of_ofTemplateWithin
    {template : Template}
    {admits : Regex.Expr → Bool}
    {pattern : Pattern}
    (made : ofTemplateWithin admits template = .ok pattern) :
    pattern.template = template := by
  unfold ofTemplateWithin at made
  split at made
  · rw [← Except.ok.inj made]
  · split at made
    · cases made
    · rw [← Except.ok.inj made]

/-- Patterns of templates that are alike are the same, and nothing tells them apart. -/
theorem IsCompiled.indistinguishable
    {first second : Pattern}
    (compiled : first.IsCompiled)
    (secondCompiled : second.IsCompiled)
    (alike : Alike first.template second.template) :
    first.same second = true ∧ first.order second = .eq ∧
      ∀ path, first.match? path = second.match? path := by
  have same : first.same second = true := decide_eq_true alike.expression
  obtain ⟨isEmpty, matcher⟩ := compiled.matcher_eq_of_same secondCompiled same
  refine ⟨same, ?_, match?_congr isEmpty matcher alike.groups⟩
  rw [order_eq_eq_iff]
  cases filled : first.isEmpty with
  | true => exact .inl ⟨rfl, isEmpty.symm.trans filled⟩
  | false =>
      exact .inr ⟨rfl, isEmpty.symm.trans filled, alike.literalCount, alike.length_names,
        alike.expression⟩

/-- Templates whose patterns are the same have one shape. -/
theorem sameShape_of_same
    {text other : Text}
    {pattern otherPattern : Pattern}
    (compiled : compile text = .ok pattern)
    (compiledOther : compile other = .ok otherPattern)
    (defaults : UsesDefaults (normalize text))
    (defaultsOther : UsesDefaults (normalize other))
    (same : pattern.same otherPattern = true) :
    SameShape text other := by
  have expressions : pattern.expression = otherPattern.expression := of_decide_eq_true same
  have split : ∀ {text : Text} {pattern : Pattern}, text ≠ [] → compile text = .ok pattern →
      ∃ first occurrences, Template.Consists (normalize text) first occurrences ∧
        pattern.expression =
          (Template.ofParts (normalize text) (Template.partsOf first occurrences)).expression := by
    intro text pattern nonempty compiled
    obtain ⟨parts, regex, read, _, rfl⟩ := (compile_eq_ok_iff nonempty).mp compiled
    obtain ⟨first, occurrences, consists, rfl⟩ := Template.readParts_eq_ok_iff.mp read
    exact ⟨first, occurrences, consists, rfl⟩
  by_cases nonempty : text = []
  · subst nonempty
    by_cases otherNonempty : other = []
    · subst otherNonempty
      exact .empty
    · obtain ⟨second, others, _, expression⟩ := split otherNonempty compiledOther
      rw [← Except.ok.inj compiled, expression] at expressions
      exact absurd expressions.symm (Template.expression_ofParts_ne_nil _ _)
  · obtain ⟨first, occurrences, consists, expression⟩ := split nonempty compiled
    rw [expression] at expressions
    by_cases otherNonempty : other = []
    · subst otherNonempty
      rw [← Except.ok.inj compiledOther] at expressions
      exact absurd expressions (Template.expression_ofParts_ne_nil _ _)
    · obtain ⟨second, others, consistsOther, expressionOther⟩ := split otherNonempty compiledOther
      rw [expressionOther] at expressions
      obtain ⟨count, runs⟩ :=
        consists.keptRuns_eq defaults consistsOther defaultsOther expressions
      exact .filled nonempty otherNonempty consists consistsOther count runs

/-- Patterns of templates of one shape have been made from templates that are alike. -/
theorem alike_of_sameShape
    {text other : Text}
    {pattern otherPattern : Pattern}
    (compiled : compile text = .ok pattern)
    (compiledOther : compile other = .ok otherPattern)
    (defaults : UsesDefaults (normalize text))
    (defaultsOther : UsesDefaults (normalize other))
    (shape : SameShape text other) :
    Alike pattern.template otherPattern.template := by
  obtain ⟨template, otherTemplate, made, otherMade, alike⟩ :=
    shape.exists_alike defaults defaultsOther
  rw [compile_eq_ofTemplateWithin made] at compiled
  rw [compile_eq_ofTemplateWithin otherMade] at compiledOther
  rwa [template_of_ofTemplateWithin compiled, template_of_ofTemplateWithin compiledOther]

/-- Templates have the same pattern exactly if they have one shape. -/
theorem same_iff
    {text other : Text}
    {pattern otherPattern : Pattern}
    (compiled : compile text = .ok pattern)
    (compiledOther : compile other = .ok otherPattern)
    (defaults : UsesDefaults (normalize text))
    (defaultsOther : UsesDefaults (normalize other)) :
    pattern.same otherPattern = true ↔ SameShape text other := by
  constructor
  · exact sameShape_of_same compiled compiledOther defaults defaultsOther
  · intro shape
    have alike := alike_of_sameShape compiled compiledOther defaults defaultsOther shape
    exact decide_eq_true alike.expression

/--
Templates with default expressions have the same pattern exactly if they have one shape.  Then both
have a pattern or none has, and nothing tells the patterns apart that is counted, ranked or
matched.  A registry of such templates refuses a resource exactly if another one has the shape.
-/
theorem identity_of_shape
    {σ : Type}
    {text other : Text}
    (defaults : UsesDefaults (normalize text))
    (defaultsOther : UsesDefaults (normalize other)) :
    (∀ pattern otherPattern,
        compile text = .ok pattern → compile other = .ok otherPattern →
          (pattern.same otherPattern = true ↔ SameShape text other)) ∧
      (SameShape text other →
        ((∃ pattern, compile text = .ok pattern) ↔ ∃ pattern, compile other = .ok pattern) ∧
          ∀ pattern otherPattern,
            compile text = .ok pattern → compile other = .ok otherPattern →
              pattern.literalCount = otherPattern.literalCount ∧
                pattern.template.groups = otherPattern.template.groups ∧
                pattern.order otherPattern = .eq ∧
                ∀ path, pattern.match? path = otherPattern.match? path ∧
                  ∀ buffer, pattern.matchInto path buffer = otherPattern.matchInto path buffer) ∧
      ∀ (registry : Registry σ) (added : Resource σ) (template : Resource σ → Text),
        compile other = .ok added.pattern →
          (∀ existing ∈ registry.resources,
            compile (template existing) = .ok existing.pattern ∧
              UsesDefaults (normalize (template existing))) →
            ((∃ error, registry.register added = .error error) ↔
              ∃ existing ∈ registry.resources, SameShape (template existing) other) := by
  refine ⟨fun pattern otherPattern compiled compiledOther =>
    same_iff compiled compiledOther defaults defaultsOther, fun shape => ⟨?_, ?_⟩, ?_⟩
  · obtain ⟨template, otherTemplate, made, otherMade, alike⟩ :=
      shape.exists_alike defaults defaultsOther
    rw [compile_eq_ofTemplateWithin made, compile_eq_ofTemplateWithin otherMade]
    constructor
    · rintro ⟨pattern, compiled⟩
      exact exists_ofTemplateWithin_of_alike alike compiled
    · rintro ⟨pattern, compiled⟩
      exact exists_ofTemplateWithin_of_alike alike.symm compiled
  · intro pattern otherPattern compiled compiledOther
    have alike := alike_of_sameShape compiled compiledOther defaults defaultsOther shape
    obtain ⟨_, order, matched⟩ :=
      IsCompiled.indistinguishable ⟨text, compiled⟩ ⟨other, compiledOther⟩ alike
    refine ⟨alike.literalCount, alike.groups, order, fun path => ⟨matched path, fun buffer => ?_⟩⟩
    rw [matchInto, matchInto, matched path]
  · intro registry added template compiled mounted
    rw [Registry.exists_register_eq_error_iff]
    apply exists_congr
    intro existing
    apply and_congr_right
    intro present
    obtain ⟨own, default⟩ := mounted existing present
    exact same_iff own compiled default defaultsOther

/-- A template with a letter that is no ASCII character. -/
def umlautTemplate : Text := "/bücher/\x7bid\x7d".toList

/-- The same template with another name and white space, an escape, and other slashes. -/
def escapedTemplate : Text := "b%C3%BCcher/\x7b isbn : \x7d/".toList

/-- A template is written in two ways: the second resource of the two is refused. -/
theorem identity_of_shape_umlaut :
    ∃ pattern otherPattern,
      UsesDefaults (normalize umlautTemplate) ∧ UsesDefaults (normalize escapedTemplate) ∧
        compile umlautTemplate = .ok pattern ∧ compile escapedTemplate = .ok otherPattern ∧
        SameShape umlautTemplate escapedTemplate ∧ pattern.order otherPattern = .eq ∧
        ∃ error, (⟨[⟨[], pattern, [], [], []⟩]⟩ : Registry Unit).register
          ⟨[], otherPattern, [], [], []⟩ = .error error := by
  have defaults : UsesDefaults (normalize umlautTemplate) := by decide +kernel
  have defaultsOther : UsesDefaults (normalize escapedTemplate) := by decide +kernel
  obtain ⟨pattern, compiled⟩ := @exists_compile umlautTemplate (by decide +kernel)
  obtain ⟨otherPattern, compiledOther⟩ := @exists_compile escapedTemplate (by decide +kernel)
  have expressions : (compile umlautTemplate).toOption.map expression =
      (compile escapedTemplate).toOption.map expression := by
    decide +kernel
  rw [compiled, compiledOther] at expressions
  obtain ⟨same, alike, refuses⟩ := @identity_of_shape Unit _ _ defaults defaultsOther
  have shape := (same _ _ compiled compiledOther).mp
    (decide_eq_true (Option.some.inj expressions))
  refine ⟨pattern, otherPattern, defaults, defaultsOther, compiled, compiledOther, shape,
    ((alike shape).2 _ _ compiled compiledOther).2.2.1, ?_⟩
  refine (refuses _ _ (fun _ => umlautTemplate) compiledOther ?_).mpr
    ⟨⟨[], pattern, [], [], []⟩, List.mem_singleton_self _, shape⟩
  intro existing present
  rw [List.mem_singleton.mp present]
  exact ⟨compiled, defaults⟩

end Pattern
end Uri
end ResourceRouting
