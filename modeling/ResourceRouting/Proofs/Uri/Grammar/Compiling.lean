import Mathlib.Data.List.Infix
import ResourceRouting.Proofs.Uri.Grammar
import ResourceRouting.Proofs.Uri.Ranking

/-!
# Compiling by the grammar

A text is compiled exactly if it consists of literal text and variables, and else its first fault
is reported.  The expression has a run of characters for each piece of literal text, and the
expressions of the variables between the runs; the slash that ends the last run is dropped.
-/

namespace ResourceRouting
namespace Uri
namespace Template

/-- Some lists with others between them. -/
def interleave {α : Type} : List (List α) → List (List α) → List α
  | [], _ => []
  | run :: _, [] => run
  | run :: runs, other :: others => run ++ other ++ interleave runs others

theorem flatMap_interleave
    {α β : Type}
    (runs others : List (List α))
    (written : α → List β) :
    (interleave runs others).flatMap written =
      interleave (runs.map (·.flatMap written)) (others.map (·.flatMap written)) := by
  induction runs, others using interleave.induct with
  | case1 others => rfl
  | case2 run runs => rfl
  | case3 run runs other others ih =>
      rw [interleave, List.flatMap_append, List.flatMap_append, ih]
      rfl

/-- Runs of text without the slash at the end of the last one, if there is one. -/
def withoutFinalSlash : List Text → List Text
  | [] => []
  | [run] => [if run.getLast? = some '/' then run.dropLast else run]
  | run :: second :: runs => run :: withoutFinalSlash (second :: runs)

@[simp]
theorem length_withoutFinalSlash (runs : List Text) :
    (withoutFinalSlash runs).length = runs.length := by
  induction runs using withoutFinalSlash.induct with
  | case1 => rfl
  | case2 run => rfl
  | case3 run second runs ih => rw [withoutFinalSlash, List.length_cons, ih]; rfl

/-- The tokens of runs of text with the expressions of variables between them. -/
def runTokens (runs expressions : List Text) : List Token :=
  interleave (runs.map (·.map .char)) (expressions.map fun expression => [.group expression])

theorem runTokens_singleton (run : Text) : runTokens [run] [] = run.map .char := rfl

theorem runTokens_cons (run expression : Text) (runs expressions : List Text) :
    runTokens (run :: runs) (expression :: expressions) =
      run.map .char ++ .group expression :: runTokens runs expressions := by
  rw [runTokens, List.map_cons, List.map_cons, interleave, List.append_assoc]
  rfl

/-- A slash at the end of the tokens ends the last run. -/
theorem dropSlash_runTokens
    {runs expressions : List Text}
    (between : runs.length = expressions.length + 1) :
    Token.dropSlash (runTokens runs expressions) =
      runTokens (withoutFinalSlash runs) expressions := by
  induction expressions generalizing runs with
  | nil =>
      obtain ⟨run, rfl⟩ := List.length_eq_one_iff.mp between
      rw [withoutFinalSlash, runTokens_singleton, runTokens_singleton, Token.dropSlash,
        List.getLast?_map, ← List.map_dropLast]
      have slash : run.getLast?.map Token.char = some (.char '/') ↔ run.getLast? = some '/' := by
        rw [Option.map_eq_some_iff]
        simp
      simp only [slash]
      split <;> rfl
  | cons expression expressions ih =>
      obtain ⟨run, second, runs, rfl⟩ : ∃ run second others, runs = run :: second :: others := by
        cases runs with
        | nil => simp at between
        | cons run runs => cases runs with
          | nil => simp at between
          | cons second runs => exact ⟨run, second, runs, rfl⟩
      have behind := ih (Nat.succ.inj between)
      rw [withoutFinalSlash, runTokens_cons, runTokens_cons, Token.dropSlash_append (by simp),
        Token.dropSlash_group_cons, behind]

/-- The characters among the tokens are those of the runs. -/
theorem charCount_runTokens
    {runs expressions : List Text}
    (between : runs.length = expressions.length + 1) :
    Token.charCount (runTokens runs expressions) = (runs.map List.length).sum := by
  have own : ∀ run : Text, Token.charCount (run.map .char) = run.length := by
    intro run
    simp [Token.charCount, List.countP_map, Function.comp_def, Token.isGroup]
  induction expressions generalizing runs with
  | nil =>
      obtain ⟨run, rfl⟩ := List.length_eq_one_iff.mp between
      simp [runTokens_singleton, own]
  | cons expression expressions ih =>
      cases runs with
      | nil => cases between
      | cons run runs =>
          have behind := ih (Nat.succ.inj between)
          rw [runTokens_cons, Token.charCount_append, own, Token.charCount_group_cons, behind]
          rfl

/-- The expression of the tokens is that of the runs with the expressions in parentheses. -/
theorem flatMap_expression_runTokens (runs expressions : List Text) :
    (runTokens runs expressions).flatMap Token.expression =
      interleave (runs.map escapeExpression)
        (expressions.map fun expression => '(' :: expression ++ [')']) := by
  have own : ∀ run : Text, (run.map Token.char).flatMap Token.expression =
      escapeExpression run := by
    intro run
    simp [List.flatMap_map, Token.expression, escapeExpression]
  rw [runTokens, flatMap_interleave, List.map_map, List.map_map]
  simp [Function.comp_def, own, Token.expression]

/-- The runs of characters that stand for the literal text of a template. -/
def literalRuns (first : Text) (occurrences : List Occurrence) : List Text :=
  (first :: occurrences.map Occurrence.behind).map Component.path.encodeLiteral

/-- The runs of characters without the slash that ends them. -/
def keptRuns (first : Text) (occurrences : List Occurrence) : List Text :=
  withoutFinalSlash (literalRuns first occurrences)

theorem length_literalRuns (first : Text) (occurrences : List Occurrence) :
    (literalRuns first occurrences).length = occurrences.length + 1 := by
  simp [literalRuns]

/-- The tokens of a template are those of its runs and of its expressions. -/
theorem tokens_partsOf (first : Text) (occurrences : List Occurrence) :
    (partsOf first occurrences).flatMap Part.tokens =
      runTokens (literalRuns first occurrences) (occurrences.map Occurrence.expression) := by
  induction occurrences generalizing first with
  | nil => simp [partsOf, Part.tokens, literalRuns, runTokens_singleton]
  | cons occurrence occurrences ih =>
      have behind := ih occurrence.behind
      simp only [partsOf, literalRuns, List.map_cons, List.flatMap_cons, Part.tokens] at behind ⊢
      simp only [Occurrence.parts, List.cons_append, List.nil_append, List.flatMap_cons,
        Part.tokens, runTokens_cons, ← behind]

/-- The names of the variables are given in order. -/
theorem names_partsOf (first : Text) (occurrences : List Occurrence) :
    partNames (partsOf first occurrences) = occurrences.map Occurrence.name := by
  rw [partsOf, partNames]
  induction occurrences with
  | nil => rfl
  | cons occurrence occurrences ih => exact congrArg (occurrence.name :: ·) ih

/--
The group of each variable, and last that of the remainder: it follows the groups of the variables
before it, each of which is one group and those in its expression.
-/
def positions (occurrences : List Occurrence) : List Nat :=
  occurrences.inits.map fun before => 1 + (before.map fun earlier => earlier.groups + 1).sum

/-- The groups depend on the number of groups in each expression only. -/
theorem positions_eq (occurrences : List Occurrence) :
    positions occurrences =
      (occurrences.map Occurrence.groups).inits.map fun before =>
        1 + (before.map (· + 1)).sum := by
  rw [List.map_inits, List.map_map]
  simp only [positions, Function.comp_def, List.map_map]

theorem groups_partsOf (first : Text) (occurrences : List Occurrence) :
    partGroups 1 (partsOf first occurrences) = positions occurrences := by
  have general : ∀ next, partGroups next (occurrences.flatMap Occurrence.parts) =
      occurrences.inits.map fun before =>
        next + (before.map fun earlier => earlier.groups + 1).sum := by
    induction occurrences with
    | nil => exact fun next => rfl
    | cons occurrence occurrences ih =>
        intro next
        rw [List.flatMap_cons]
        simp only [Occurrence.parts, List.cons_append, List.nil_append, partGroups, ih,
          List.inits_cons, List.map_cons, List.map_map, Function.comp_def, List.map_nil,
          List.sum_nil, List.sum_cons]
        congr 1
        apply List.map_congr_left
        intro before _
        omega
  exact general 1

/-- The compiled template of literal text and of variables with literal text behind them. -/
theorem ofParts_partsOf (text first : Text) (occurrences : List Occurrence) :
    ofParts text (partsOf first occurrences) =
      { text
        expression :=
          interleave ((keptRuns first occurrences).map escapeExpression)
            (occurrences.map fun occurrence => '(' :: occurrence.expression ++ [')']) ++ tail
        literalCount := ((keptRuns first occurrences).map List.length).sum
        names := occurrences.map Occurrence.name
        groups := positions occurrences } := by
  have between : (literalRuns first occurrences).length =
      (occurrences.map Occurrence.expression).length + 1 := by
    rw [length_literalRuns, List.length_map]
  have kept : (keptRuns first occurrences).length =
      (occurrences.map Occurrence.expression).length + 1 := by
    rw [keptRuns, length_withoutFinalSlash, between]
  have expression := expression_ofParts text (partsOf first occurrences)
  have count := literalCount_ofParts text (partsOf first occurrences)
  rw [tokens_partsOf, dropSlash_runTokens between] at expression count
  rw [flatMap_expression_runTokens, List.map_map] at expression
  rw [← keptRuns, charCount_runTokens kept] at count
  have names := (names_ofParts text (partsOf first occurrences)).trans (names_partsOf _ _)
  have groups := (groups_ofParts text (partsOf first occurrences)).trans (groups_partsOf _ _)
  have fields : ∀ template : Template, template =
      ⟨template.text, template.expression, template.literalCount, template.names,
        template.groups⟩ := fun _ => rfl
  rw [fields (ofParts text (partsOf first occurrences)), text_ofParts, expression, count, names,
    groups]
  rfl

/-- An expression that ends with a slash has a character that stands for itself. -/
theorem literalCount_pos
    {parts : List Part}
    (slash : (parts.flatMap partExpression).getLast? = some '/') :
    0 < parts.foldr (fun part count => partLiteralCount part + count) 0 := by
  rw [flatMap_partExpression_eq, Token.getLast?_flatMap_expression_iff] at slash
  rw [foldr_partLiteralCount_eq, Token.charCount, List.countP_pos_iff]
  exact ⟨_, List.mem_of_getLast? slash, rfl⟩

/--
A text is compiled exactly if its normal form consists of literal text and variables, which it does
in one way.  What it is compiled to is then given by the pieces, where a slash that is dropped has
been counted; the error is the first fault otherwise.
-/
theorem compile_grammar (text : Text) (nonempty : normalize text ≠ []) :
    ((∃ template, compile text = .ok template) ↔
        ∃ first occurrences, Consists (normalize text) first occurrences) ∧
      (∀ first occurrences other others,
        Consists (normalize text) first occurrences → Consists (normalize text) other others →
          first = other ∧ occurrences = others) ∧
      (∀ first occurrences, Consists (normalize text) first occurrences →
        compile text =
            .ok
              { text := normalize text
                expression :=
                  interleave ((keptRuns first occurrences).map escapeExpression)
                    (occurrences.map fun occurrence => '(' :: occurrence.expression ++ [')']) ++
                      tail
                literalCount := ((keptRuns first occurrences).map List.length).sum
                names := occurrences.map Occurrence.name
                groups := positions occurrences } ∧
          (((partsOf first occurrences).flatMap partExpression).getLast? = some '/' →
            0 < (partsOf first occurrences).foldr
              (fun part count => partLiteralCount part + count) 0)) ∧
      ∀ error, compile text = .error error ↔
        HasFault (normalize text) 0 (normalize text) error := by
  have filled : text ≠ [] := by
    rintro rfl
    exact nonempty rfl
  rw [compile_eq filled]
  refine ⟨?_, fun _ _ _ _ consists other => consists.unique other, ?_, fun error => ?_⟩
  · constructor
    · rintro ⟨template, compiled⟩
      cases read : readParts (normalize text) 0 (normalize text) with
      | error fault =>
          rw [read] at compiled
          cases compiled
      | ok parts =>
          obtain ⟨first, occurrences, consists, _⟩ := readParts_eq_ok_iff.mp read
          exact ⟨first, occurrences, consists⟩
    · rintro ⟨first, occurrences, consists⟩
      exact ⟨_, by rw [consists.readParts_eq]; rfl⟩
  · intro first occurrences consists
    rw [consists.readParts_eq, ← ofParts_partsOf]
    exact ⟨rfl, literalCount_pos⟩
  · rw [← readParts_eq_error_iff]
    cases readParts (normalize text) 0 (normalize text) <;> simp [Except.map]

/-- A template with braces in an expression, and a slash at its end. -/
def codeTemplate : Text := "codes/\x7bcode: [0-9]\x7b3\x7d\x7d/".toList

/-- A text with a brace too many behind a character of two bytes. -/
def looseTemplate : Text := "é/\x7bid\x7d\x7d".toList

/-- A template consists of pieces, and a loose brace is reported at the number of bytes before. -/
theorem compile_grammar_code :
    normalize codeTemplate ≠ [] ∧
      (∃ first occurrences, Consists (normalize codeTemplate) first occurrences) ∧
      normalize looseTemplate ≠ [] ∧
      HasFault (normalize looseTemplate) 0 (normalize looseTemplate)
        (.unexpectedClose (normalize looseTemplate) 8) := by
  have filled : normalize codeTemplate ≠ [] := by decide
  have looseFilled : normalize looseTemplate ≠ [] := by decide
  have compiled : (compile codeTemplate).toBool = true := by decide +kernel
  refine ⟨filled, (compile_grammar _ filled).1.mp ?_, looseFilled,
    ((compile_grammar _ looseFilled).2.2.2 _).mp ?_⟩
  · cases result : compile codeTemplate with
    | error fault =>
        rw [result] at compiled
        cases compiled
    | ok template => exact ⟨template, rfl⟩
  · decide +kernel

end Template
end Uri
end ResourceRouting
