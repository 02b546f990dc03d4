import ResourceRouting.Proofs.Uri.Shape.Expression

/-!
# Matching along a shape

The expression of a shape matches a path exactly as the shape itself does: the groups are noted
with the values of the preferred reading, and the last one with the remainder.
-/

namespace ResourceRouting
namespace Uri
namespace Shape

open Regex

/-- What the group of the remainder is noted with. -/
def noteRemainder (group : Nat) : Option Text → Notes
  | none => []
  | some remainder => [(group, remainder)]

/-- What the groups are noted with, the first of which has a given number. -/
def notes (next : Nat) : List Text → Option Text → Notes
  | [], remainder => noteRemainder next remainder
  | value :: values, remainder => (next, value) :: notes (next + 1) values remainder

/-- Values are spans without a slash. -/
theorem values_eq_spans (text : Text) : values text = spans (.compl (.single '/')) text := by
  induction text with
  | nil => rfl
  | cons character rest ih =>
      by_cases slash : character = '/'
      · rw [values, spans, if_pos slash, if_neg (by simp [contains_compl_single, slash])]
      · rw [values, spans, if_neg slash, if_pos (contains_compl_single.mpr slash), ih]

/-- The first span of characters other than a line feed that ends a text is all of the text. -/
theorem findSome?_spans_line (text : Text) (result : Text → Option Notes) :
    (spans (.compl (.single '\n')) text ++ [([], text)]).findSome?
        (fun span : Text × Text => if span.2.isEmpty then result span.1 else none) =
      if '\n' ∈ text then none else result text := by
  induction text generalizing result with
  | nil => simp [spans]
  | cons character rest ih =>
      by_cases feed : character = '\n'
      · rw [spans, if_neg (by simp [contains_compl_single, feed]), feed]
        simp
      · have member := contains_compl_single.mpr feed
        have spanned : spans (.compl (.single '\n')) (character :: rest) =
            (spans (.compl (.single '\n')) rest ++ [([], rest)]).map
              fun span : Text × Text => (character :: span.1, span.2) := by
          simp [spans, member]
        have further := ih fun span => result (character :: span)
        rw [spanned, List.findSome?_append, List.findSome?_map]
        simp only [Function.comp_def, further, List.mem_cons, Ne.symm feed, false_or]
        split <;> simp

/-- The group of the remainder takes what is left of a path, if it may be a remainder. -/
theorem run_remainderExpr (group : Nat) (place : Place) :
    (Reader.remainderExpr group).run atEnd place =
      (remainder? place.ahead).map (noteRemainder group) := by
  let line : Expr := .repeated 0 none true (.chars (.compl (.single '\n')))
  let noted : Goal := fun next => (atEnd next).map (note group (place.textTo next))
  have preferred : (Reader.remainderExpr group).run atEnd place =
      orElse (fun _ => (Expr.char '/').run (line.run noted) place) (fun _ => atEnd place) := rfl
  rw [preferred]
  cases ahead : place.ahead with
  | nil =>
      have stopped := @run_chars_of_nil (.single '/') place ahead (line.run noted)
      simp only [orElse, Expr.char, stopped, atEnd, ahead]
      rfl
  | cons character rest =>
      have unfinished : atEnd place = none := by simp [atEnd, ahead]
      by_cases slash : character = '/'
      · subst slash
        have member : (CharSet.single '/').contains '/' = true :=
          (CharSet.contains_single _ _).mpr rfl
        have behind : line.run noted (place.next '/' rest) =
            if '\n' ∈ rest then none else some [(group, '/' :: rest)] := by
          let answer : Nat → Text → Option Notes := fun index text =>
            (if text.isEmpty then some [] else none).map
              (note group (place.ahead.take (index - place.index)))
          have repeated : line.run noted (place.next '/' rest) =
              reachBehind answer (place.index + 1)
                (spans (.compl (.single '\n')) rest ++ [([], rest)]) :=
            run_anyNumber_chars _ answer (place.next '/' rest)
          rw [repeated, ← findSome?_spans_line rest fun span => some [(group, '/' :: span)]]
          apply findSome?_congr
          rintro ⟨span, final⟩ present
          have split : rest = span ++ final := by
            rcases List.mem_append.mp present with longer | shortest
            · exact eq_append_of_mem_spans longer
            · cases List.mem_singleton.mp shortest
              rfl
          cases final with
          | nil =>
              have taken : place.ahead.take (place.index + 1 + span.length - place.index) =
                  '/' :: span := by
                rw [ahead, split, Nat.add_assoc, Nat.add_sub_cancel_left, Nat.add_comm 1,
                  List.take_succ_cons, List.take_left]
              simp only [answer, taken]
              rfl
          | cons next others => rfl
        simp only [orElse, Expr.char, run_chars_of_mem ahead member, behind, unfinished, remainder?]
        by_cases feed : '\n' ∈ rest
        · simp only [if_pos feed, Option.map_none]
        · simp only [if_neg feed, Option.map_some]
          rfl
      · have foreign : ¬(CharSet.single '/').contains character = true := by
          rwa [CharSet.contains_single]
        have none : remainder? (character :: rest) = none := by
          unfold remainder?
          split
          · contradiction
          · rename_i equal
            injection equal
            contradiction
          · rfl
        simp only [orElse, Expr.char, run_chars_of_not_mem ahead foreign, unfinished, none,
          Option.map_none]

/-- The notes on later groups do not concern an earlier one. -/
theorem lookup_notes_of_lt
    {group next : Nat}
    (earlier : group < next)
    (values : List Text)
    (remainder : Option Text) :
    (notes next values remainder).lookup group = none := by
  induction values generalizing next with
  | nil =>
      cases remainder with
      | none => rfl
      | some text =>
          rw [notes, noteRemainder, List.lookup_cons, beq_false_of_ne (Nat.ne_of_lt earlier)]
          rfl
  | cons value values ih =>
      have distinct : (group == next) = false := beq_false_of_ne (Nat.ne_of_lt earlier)
      rw [notes, List.lookup_cons, distinct]
      exact ih (Nat.lt_succ_of_lt earlier)

/-- The expressions of a shape run to the preferred reading and note its values. -/
theorem run_exprs (next : Nat) (shape : Shape) (place : Place) :
    (shape.exprs next).foldr Expr.run atEnd place =
      (shape.readings place.ahead).findSome? fun (values, rest) =>
        (remainder? rest).map (notes next values) := by
  induction shape generalizing next place with
  | nil =>
      rw [exprs_nil, List.foldr_cons, List.foldr_nil, run_remainderExpr]
      simp only [readings, List.findSome?_cons, List.findSome?_nil, notes]
      cases (remainder? place.ahead).map (noteRemainder next) <;> rfl
  | cons atom shape ih =>
      cases atom with
      | char character =>
          rw [exprs_char, List.foldr_cons]
          cases ahead : place.ahead with
          | nil => simp [Expr.char, run_chars_of_nil ahead, readings]
          | cons other rest =>
              by_cases same : other = character
              · subst same
                have member : (CharSet.single other).contains other = true :=
                  (CharSet.contains_single _ _).mpr rfl
                rw [Expr.char, run_chars_of_mem ahead member, ih, readings, if_pos rfl]
                rfl
              · have foreign : ¬(CharSet.single character).contains other = true := by
                  rwa [CharSet.contains_single]
                rw [Expr.char, run_chars_of_not_mem ahead foreign, readings, if_neg same]
                rfl
      | value =>
          have goal : ((exprs (next + 1) shape).foldr Expr.run atEnd) = fun later =>
              (readings shape later.ahead).findSome? fun (values, rest) =>
                (remainder? rest).map (notes (next + 1) values) := by
            funext later
            exact ih (next + 1) later
          rw [exprs_value, List.foldr_cons, goal,
            Reader.run_segmentExpr next fun text => (readings shape text).findSome?
              fun (values, rest) => (remainder? rest).map (notes (next + 1) values)]
          rw [readings, findSome?_flatMap, values_eq_spans]
          congr 1
          funext span
          obtain ⟨value, rest⟩ := span
          have noted : ∀ (values : List Text) (final : Text),
              ((remainder? final).map (notes (next + 1) values)).map (note next value) =
                (remainder? final).map (notes next (value :: values)) := by
            intro values final
            rw [Option.map_map]
            congr 1
            funext remainder
            simp [note, notes, lookup_notes_of_lt (Nat.lt_succ_self next)]
          rw [List.findSome?_map]
          simp only [List.map_findSome?, Function.comp_def, noted]

end Shape
end Uri
end ResourceRouting
