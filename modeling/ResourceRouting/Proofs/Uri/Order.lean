import Mathlib.Order.Compare
import ResourceRouting.Uri.Pattern

/-!
# The order of patterns

The order of patterns is a total preorder, whatever the patterns are.  Patterns of equal rank are
all empty or have equal expressions.
-/

namespace ResourceRouting
namespace Uri
namespace Pattern

/-- The order of texts is the lexicographic order of their code points. -/
theorem compareText_eq_compareLex (first second : Text) :
    compareText first second = List.compareLex (compareOn Char.toNat) first second := by
  induction first generalizing second with
  | nil => cases second <;> rfl
  | cons character rest ih =>
      cases second with
      | nil => rfl
      | cons other others =>
          rw [compareText, ih, List.compareLex_cons_cons]
          rfl

instance : Std.TransCmp compareText := by
  have equal : compareText = List.compareLex (compareOn Char.toNat) := by
    funext first second
    exact compareText_eq_compareLex first second
  rw [equal]
  infer_instance

/-- Texts of equal rank are equal. -/
theorem compareText_eq_iff {first second : Text} :
    compareText first second = .eq ↔ first = second := by
  constructor
  · intro equal
    induction first generalizing second with
    | nil =>
        cases second with
        | nil => rfl
        | cons => cases equal
    | cons character rest ih =>
        cases second with
        | nil => cases equal
        | cons other others =>
            rw [compareText, Ordering.then_eq_eq, Nat.compare_eq_eq, Char.toNat_inj] at equal
            rw [equal.1, ih equal.2]
  · rintro rfl
    exact Std.ReflCmp.compare_self

/-- What the rank of a pattern depends on. -/
structure Rank where
  /-- Whether the pattern is that of the empty template. -/
  last : Bool
  /-- How many characters stand for themselves. -/
  literals : Nat
  /-- How many occurrences of variables there are. -/
  occurrences : Nat
  /-- The expression. -/
  expression : Text
  deriving DecidableEq

namespace Rank

/-- The order of ranks. -/
def order : Rank → Rank → Ordering :=
  compareLex (compareOn last)
    (compareLex (fun first second => compareOn literals second first)
      (compareLex (compareOn occurrences)
        fun first second => compareText first.expression second.expression))

instance : Std.TransCmp order := by
  have texts : Std.TransCmp fun first second : Rank =>
      compareText first.expression second.expression :=
    { eq_swap := Std.OrientedCmp.eq_swap
      isLE_trans := Std.TransCmp.isLE_trans }
  have reversed : Std.TransCmp fun first second : Rank => compareOn literals second first :=
    .opposite
  unfold order
  infer_instance

end Rank

/-- The rank of a pattern; all patterns of the empty template have one rank. -/
def rank (pattern : Pattern) : Rank :=
  if pattern.isEmpty then
    ⟨true, 0, 0, []⟩
  else
    ⟨false, pattern.literalCount, pattern.names.length, pattern.expression⟩

theorem order_eq_rankOrder (first second : Pattern) :
    first.order second = Rank.order first.rank second.rank := by
  unfold order rank
  cases first.isEmpty <;> cases second.isEmpty <;> rfl

instance : Std.TransCmp order where
  eq_swap {first second} := by
    rw [order_eq_rankOrder, order_eq_rankOrder]
    exact Std.OrientedCmp.eq_swap
  isLE_trans {first second third} := by
    rw [order_eq_rankOrder, order_eq_rankOrder, order_eq_rankOrder]
    exact Std.TransCmp.isLE_trans

theorem precedes_iff {first second : Pattern} :
    first.precedes second = true ↔ first.order second = .lt :=
  decide_eq_true_iff

/-- Patterns of equal rank are both empty, or their expressions are equal. -/
theorem order_eq_eq_iff {first second : Pattern} :
    first.order second = .eq ↔
      (first.isEmpty = true ∧ second.isEmpty = true) ∨
        (first.isEmpty = false ∧ second.isEmpty = false ∧
          first.literalCount = second.literalCount ∧
          first.names.length = second.names.length ∧
          first.expression = second.expression) := by
  unfold order
  cases first.isEmpty <;> cases second.isEmpty
  · rw [Ordering.then_eq_eq, Ordering.then_eq_eq, Nat.compare_eq_eq, Nat.compare_eq_eq,
      compareText_eq_iff]
    simp [eq_comm]
  · simp
  · simp
  · simp

end Pattern
end Uri
end ResourceRouting
