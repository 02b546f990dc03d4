import Mathlib.Algebra.GroupWithZero.Nat
import ResourceRouting.Proofs.Regex.Running
import ResourceRouting.Proofs.Uri.Shape

/-!
# The expression of a shape

The text that a shape has as an expression, and what the reader makes of it.
-/

namespace ResourceRouting
namespace Uri
namespace Atom

/-- The text that an atom has as an expression. -/
def expression : Atom → Text
  | char character => Template.escapeExpression [character]
  | value => '(' :: Template.defaultExpression ++ [')']

/-- The expression of a character, whatever follows it, tells which character it is. -/
theorem escapeExpression_append_inj
    {first second : Char}
    {rest others : Text}
    (same : Template.escapeExpression [first] ++ rest =
      Template.escapeExpression [second] ++ others) :
    first = second ∧ rest = others := by
  have backslash : Template.isSpecial '\\' = true := by decide
  simp only [Template.escapeExpression, List.flatMap_cons, List.flatMap_nil, List.append_nil]
    at same
  split at same <;> split at same
  · simpa using same
  · -- An unescaped backslash would have to be an escaped one.
    rename_i _ ordinary
    simp only [List.cons_append, List.nil_append, List.cons.injEq] at same
    exact absurd (same.1 ▸ backslash) ordinary
  · rename_i ordinary _
    simp only [List.cons_append, List.nil_append, List.cons.injEq] at same
    exact absurd (same.1 ▸ backslash) ordinary
  · simpa using same

/-- An opening parenthesis does not stand for itself. -/
theorem escapeExpression_append_ne
    (character : Char)
    (rest others : Text) :
    Template.escapeExpression [character] ++ rest ≠ '(' :: others := by
  have parenthesis : Template.isSpecial '(' = true := by decide
  simp only [Template.escapeExpression, List.flatMap_cons, List.flatMap_nil, List.append_nil]
  intro same
  split at same
  · injection same with first _
    cases first
  · rename_i ordinary
    injection same with first _
    exact ordinary (first ▸ parenthesis)

/-- The expression of an atom, whatever follows it, tells which atom it is. -/
theorem expression_append_inj
    {first second : Atom}
    {rest others : Text}
    (same : first.expression ++ rest = second.expression ++ others) :
    first = second ∧ rest = others := by
  cases first with
  | char character =>
      cases second with
      | char other =>
          obtain ⟨rfl, behind⟩ := escapeExpression_append_inj same
          exact ⟨rfl, behind⟩
      | value => exact absurd same (escapeExpression_append_ne _ _ _)
  | value =>
      cases second with
      | char other => exact absurd same.symm (escapeExpression_append_ne _ _ _)
      | value => exact ⟨rfl, List.append_cancel_left same⟩

/-- The expression of an atom is not the beginning of that of the remainder. -/
theorem expression_append_ne_tail (atom : Atom) (rest : Text) :
    atom.expression ++ rest ≠ Template.tail := by
  cases atom with
  | char character => exact escapeExpression_append_ne _ _ _
  | value =>
      intro same
      simp [expression, Template.defaultExpression, Template.tail] at same

end Atom

namespace Shape

open Regex

/-- The text that a shape has as an expression; the remainder ends it. -/
def expression (shape : Shape) : Text :=
  shape.flatMap Atom.expression ++ Template.tail

/-- Shapes with the same expression are the same. -/
theorem expression_inj {first second : Shape} (same : first.expression = second.expression) :
    first = second := by
  induction first generalizing second with
  | nil =>
      cases second with
      | nil => rfl
      | cons atom second =>
          rw [expression, expression, List.flatMap_cons, List.append_assoc] at same
          exact absurd same.symm (Atom.expression_append_ne_tail atom _)
  | cons atom first ih =>
      cases second with
      | nil =>
          rw [expression, expression, List.flatMap_cons, List.append_assoc] at same
          exact absurd same (Atom.expression_append_ne_tail atom _)
      | cons other second =>
          rw [expression, expression, List.flatMap_cons, List.flatMap_cons, List.append_assoc,
            List.append_assoc] at same
          obtain ⟨rfl, behind⟩ := Atom.expression_append_inj same
          rw [ih behind]

/-- What the reader makes of a shape when the next group gets a given number. -/
def pieces (next : Nat) : Shape → List Reader.Piece
  | [] => [⟨Reader.remainderExpr next, 4⟩]
  | .char character :: shape => ⟨.char character, 0⟩ :: pieces next shape
  | .value :: shape => ⟨Reader.segmentExpr next, 3⟩ :: pieces (next + 1) shape

/-- The expressions of a shape when the next group gets a given number. -/
def exprs (next : Nat) (shape : Shape) : List Expr :=
  (shape.pieces next).map Reader.Piece.expr

/-- The number of places for values. -/
def valueCount (shape : Shape) : Nat :=
  shape.count .value

@[simp]
theorem exprs_nil (next : Nat) : exprs next [] = [Reader.remainderExpr next] := rfl

@[simp]
theorem exprs_char (next : Nat) (character : Char) (shape : Shape) :
    exprs next (.char character :: shape) = .char character :: exprs next shape := rfl

@[simp]
theorem exprs_value (next : Nat) (shape : Shape) :
    exprs next (.value :: shape) = Reader.segmentExpr next :: exprs (next + 1) shape := rfl

/-- The pieces of a shape are not deep. -/
theorem depth_le_of_mem_pieces
    {shape : Shape}
    {next : Nat}
    {piece : Reader.Piece}
    (present : piece ∈ shape.pieces next) :
    piece.depth ≤ 4 := by
  induction shape generalizing next with
  | nil =>
      obtain rfl := List.mem_singleton.mp present
      exact Nat.le_refl 4
  | cons atom shape ih =>
      cases atom with
      | char character =>
          rcases List.mem_cons.mp present with rfl | later
          · exact Nat.zero_le 4
          · exact ih later
      | value =>
          rcases List.mem_cons.mp present with rfl | later
          · exact Nat.le_succ 3
          · exact ih later

/-- Reads a character that stands for itself. -/
theorem readRest_escapeExpression
    {state : Reader.State}
    (plain : state.flags = .initial)
    (character : Char)
    (rest : Text) :
    Reader.readRest state (Template.escapeExpression [character] ++ rest) =
      Reader.readRest (state.push (.char character) 0) rest := by
  by_cases special : Escape.isMeta character = true
  · have escaped : Template.escapeExpression [character] ++ rest = '\\' :: character :: rest := by
      simp [Template.escapeExpression, Template.isSpecial, special]
    rw [escaped, Reader.readRest_of_step plain (Reader.step_of_isMeta plain special)]
  · have ordinary : Escape.isMeta character = false := Bool.eq_false_iff.mpr special
    have itself : Template.escapeExpression [character] ++ rest = character :: rest := by
      simp [Template.escapeExpression, Template.isSpecial, ordinary]
    rw [itself, Reader.readRest_of_step plain (Reader.step_of_not_isMeta plain ordinary)]

/-- Reads the expression of a shape up to the parenthesis behind it. -/
theorem readRest_expression
    {state : Reader.State}
    (plain : state.flags = .initial)
    (shape : Shape)
    (rest : Text) :
    Reader.readRest state (shape.expression ++ ')' :: rest) =
      Reader.readRest
        { state with
          nextGroup := state.nextGroup + shape.valueCount + 1
          items := ((shape.pieces state.nextGroup).map .piece).reverse ++ state.items }
        (')' :: rest) := by
  induction shape generalizing state with
  | nil => exact Reader.readRest_remainder plain rest
  | cons atom shape ih =>
      cases atom with
      | char character =>
          have split : expression (.char character :: shape) ++ ')' :: rest =
              Template.escapeExpression [character] ++ (expression shape ++ ')' :: rest) := by
            simp [expression, Atom.expression]
          have pushed : (state.push (.char character) 0).flags = .initial := plain
          rw [split, readRest_escapeExpression plain, ih pushed]
          simp [Reader.State.push, pieces, valueCount]
      | value =>
          have split : expression (.value :: shape) ++ ')' :: rest =
              '(' :: '[' :: '^' :: '/' :: ']' :: '+' :: ')' ::
                (expression shape ++ ')' :: rest) := by
            simp [expression, Atom.expression, Template.defaultExpression]
          have pushed :
              (state.pushGroup ⟨Reader.segmentExpr state.nextGroup, 3⟩).flags = .initial := plain
          rw [split, Reader.readRest_segment plain, ih pushed]
          simp [Reader.State.pushGroup, pieces, valueCount, Nat.add_assoc, Nat.add_comm 1]

/-- The expression of a shape is read between its anchors. -/
theorem read_expression (shape : Shape) :
    Reader.read (Pattern.anchored shape.expression) =
      some (Reader.wholeExpr (shape.exprs 1)) :=
  @Reader.read_anchored shape.expression (shape.pieces 1) (1 + shape.valueCount + 1)
    (fun _ present => depth_le_of_mem_pieces present)
    (fun state plain first bare => by
      rw [readRest_expression plain, first, bare, List.append_nil])

end Shape
end Uri
end ResourceRouting
