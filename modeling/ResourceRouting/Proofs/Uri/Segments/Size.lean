import ResourceRouting.Proofs.Uri.Segments

/-!
# The size of templates of segments

Each variable adds the same to the automata of a template, so a template of variables fits into the
default room exactly if there are not too many of them.
-/

namespace ResourceRouting
namespace Regex
namespace Expr

theorem size_concat (automaton : Automaton) (first : Expr) (rest : List Expr) :
    (concat (first :: rest)).size automaton =
      Automaton.total ((first :: rest).map (size automaton)) := by
  have folded : ∀ (start : Expr) (list : List Expr),
      (list.foldl .seq start).size automaton =
        start.size automaton + Automaton.total (list.map (size automaton)) := by
    intro start list
    induction list generalizing start with
    | nil => rfl
    | cons expr list ih =>
        rw [List.foldl_cons, ih, size, Nat.add_assoc]
        rfl
  exact folded first rest

/-- Around a sequence that has to match all of a text, each automaton has the same states. -/
theorem compiledSize_wholeExpr (automaton : Automaton) (first : Expr) (rest : List Expr) :
    (Reader.wholeExpr (first :: rest)).compiledSize automaton =
      Automaton.leading true + automaton.noting + 3 * Automaton.state +
        Automaton.total ((first :: rest).map (size automaton)) := by
  have begins : (Reader.wholeExpr (first :: rest)).beginsText = true := by
    simp [Reader.wholeExpr, beginsText]
  have ends : (Reader.wholeExpr (first :: rest)).endsText = true := by
    simp [Reader.wholeExpr, endsText]
  have inner : (Reader.wholeExpr (first :: rest)).size automaton =
      Automaton.state + Automaton.total ((first :: rest).map (size automaton)) +
        Automaton.state := by
    simp only [Reader.wholeExpr, size, size_concat]
  cases automaton <;> simp only [compiledSize, begins, ends, inner] <;> omega

end Expr
end Regex

namespace Uri
namespace Segment

open Regex

/-- What is read from the expression of a template of segments. -/
def wholeExpr (segments : List Segment) : Expr :=
  Reader.wholeExpr ((shapeOf segments).exprs 1)

/-- The size of what is read from the template of a variable that is repeated. -/
theorem total_size_exprs_replicate (automaton : Automaton) (body : Text) (next count : Nat) :
    Automaton.total (((shapeOf (List.replicate count (.braced body))).exprs next).map
        (Expr.size automaton)) =
      count * ((Expr.char '/').size automaton + (Reader.segmentExpr 1).size automaton) +
        (Reader.remainderExpr 1).size automaton := by
  induction count generalizing next with
  | zero =>
      rw [Nat.zero_mul, Nat.zero_add]
      rfl
  | succ count ih =>
      rw [List.replicate_succ, shapeOf_cons, shape, List.cons_append, List.singleton_append,
        Shape.exprs_char, Shape.exprs_value]
      have own : (Reader.segmentExpr next).size automaton =
          (Reader.segmentExpr 1).size automaton := rfl
      rw [List.map_cons, List.map_cons, Automaton.total, List.foldr_cons, List.foldr_cons,
        ← Automaton.total, ih, own, Nat.succ_mul]
      omega

/-- The room that a template of a variable that is repeated takes. -/
theorem compiledSize_replicate (automaton : Automaton) (body : Text) (count : Nat) :
    (wholeExpr (List.replicate count (.braced body))).compiledSize automaton =
      count * ((Expr.char '/').size automaton + (Reader.segmentExpr 1).size automaton) +
        (wholeExpr []).compiledSize automaton := by
  have inner := total_size_exprs_replicate automaton body 1 count
  cases list : (shapeOf (List.replicate count (Segment.braced body))).exprs 1 with
  | nil => cases count <;> cases list
  | cons first rest =>
      have none : (wholeExpr []).compiledSize automaton =
          Automaton.leading true + automaton.noting + 3 * Automaton.state +
            (Reader.remainderExpr 1).size automaton :=
        Expr.compiledSize_wholeExpr automaton (Reader.remainderExpr 1) []
      rw [list] at inner
      rw [wholeExpr, list, Expr.compiledSize_wholeExpr, inner, none]
      omega

/-- A variable may be repeated 9780 times, and not more often. -/
theorem fits_replicate_iff {body : Text} {count : Nat} :
    (wholeExpr (List.replicate count (.braced body))).fits = true ↔ count ≤ 9780 := by
  have forward := compiledSize_replicate .forward body count
  have backward := compiledSize_replicate .backward body count
  have forwardOne : (Expr.char '/').size .forward + (Reader.segmentExpr 1).size .forward = 560 := by
    decide +kernel
  have backwardOne :
      (Expr.char '/').size .backward + (Reader.segmentExpr 1).size .backward = 1072 := by
    decide +kernel
  have forwardNone : (wholeExpr []).compiledSize .forward = 824 := by decide +kernel
  have backwardNone : (wholeExpr []).compiledSize .backward = 1272 := by decide +kernel
  rw [forwardOne, forwardNone] at forward
  rw [backwardOne, backwardNone] at backward
  rw [Expr.fits, forward, backward, Bool.and_eq_true, decide_eq_true_eq, decide_eq_true_eq,
    Expr.maximalSize]
  omega

end Segment
end Uri
end ResourceRouting
