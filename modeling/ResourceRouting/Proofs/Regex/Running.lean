import ResourceRouting.Proofs.Regex.Reading
import ResourceRouting.Proofs.Regex.Sharing

/-!
# Running expressions

What the matcher does with greedy repetitions of single characters, with sequences, and with the
groups that the expression of a template is built from, when the goal looks at nothing but the
text ahead.
-/

namespace ResourceRouting
namespace Regex

/--
The texts of one character or more from a set that a text begins with, and what follows them; the
longest comes first.
-/
def spans (set : CharSet) : Text → List (Text × Text)
  | [] => []
  | character :: rest =>
      if set.contains character then
        (spans set rest).map (fun (span, more) => (character :: span, more)) ++
          [([character], rest)]
      else
        []

theorem contains_compl_single {member character : Char} :
    (CharSet.compl (.single member)).contains character = true ↔ character ≠ member := by
  rw [CharSet.contains, Bool.not_eq_true', ← Bool.not_eq_true, CharSet.contains_single]

/-- A goal that looks at the index and at the text ahead of a place. -/
def goalOf (answer : Nat → Text → Option Notes) : Goal :=
  fun place => answer place.index place.ahead

/-- A goal is reached behind one of some spans, the first ones being preferred. -/
def reachBehind
    (answer : Nat → Text → Option Notes)
    (index : Nat)
    (spans : List (Text × Text)) :
    Option Notes :=
  spans.findSome? fun (span, rest) => answer (index + span.length) rest

/-- Spans that begin with one more character lead to the same places. -/
theorem reachBehind_map_cons
    (answer : Nat → Text → Option Notes)
    (index : Nat)
    (character : Char)
    (list : List (Text × Text)) :
    reachBehind answer index (list.map fun span => (character :: span.1, span.2)) =
      reachBehind answer (index + 1) list := by
  rw [reachBehind, List.findSome?_map]
  congr 1
  funext span
  simp only [Function.comp_apply, List.length_cons, Nat.add_assoc, Nat.add_comm 1]

/-- A goal that is not reached behind some spans may be reached behind others. -/
theorem reachBehind_append
    (answer : Nat → Text → Option Notes)
    (index : Nat)
    (first second : List (Text × Text)) :
    reachBehind answer index (first ++ second) =
      (reachBehind answer index first).or (reachBehind answer index second) :=
  List.findSome?_append

/-- A character of a set is passed, and the goal has to be reached behind it. -/
theorem run_chars_of_mem
    {set : CharSet}
    {place : Place}
    {character : Char}
    {rest : Text}
    (ahead : place.ahead = character :: rest)
    (member : set.contains character = true)
    (goal : Goal) :
    (Expr.chars set).run goal place = goal (place.next character rest) := by
  have passed : place.pass? set = some (place.next character rest) :=
    Place.pass?_eq_some_iff.mpr ⟨character, rest, ahead, member, rfl⟩
  rw [Expr.run, passed, Option.bind_some]

theorem run_chars_of_not_mem
    {set : CharSet}
    {place : Place}
    {character : Char}
    {rest : Text}
    (ahead : place.ahead = character :: rest)
    (foreign : ¬set.contains character = true)
    (goal : Goal) :
    (Expr.chars set).run goal place = none := by
  simp [Expr.run, Place.pass?, ahead, foreign]

theorem run_chars_of_nil
    {set : CharSet}
    {place : Place}
    (ahead : place.ahead = [])
    (goal : Goal) :
    (Expr.chars set).run goal place = none := by
  simp [Expr.run, Place.pass?, ahead]

/-- Greedy repetition of a character of a set prefers long spans and ends with the empty one. -/
theorem again_chars
    (set : CharSet)
    (answer : Nat → Text → Option Notes)
    (place : Place) :
    again (Expr.chars set).run true (goalOf answer) place =
      reachBehind answer place.index (spans set place.ahead ++ [([], place.ahead)]) := by
  have last : ∀ place : Place, reachBehind answer place.index [([], place.ahead)] =
      goalOf answer place := by
    simp [reachBehind, goalOf]
  induction place using Place.inductionOn with
  | ended place ahead =>
      rw [again, ← last]
      simp only [prefer, if_true, orElse, run_chars_of_nil ahead]
      simp only [ahead, spans, List.nil_append]
  | step place character rest ahead ih =>
      rw [again, ← last]
      by_cases member : set.contains character = true
      · have further : rest.length < place.ahead.length := by simp [ahead]
        have spanned : spans set place.ahead ++ [([], place.ahead)] =
            ((spans set rest ++ [([], rest)]).map
              fun span : Text × Text => (character :: span.1, span.2)) ++ [([], place.ahead)] := by
          simp [ahead, spans, member]
        rw [spanned, reachBehind_append, reachBehind_map_cons]
        simp only [prefer, if_true, orElse, run_chars_of_mem ahead member, Place.ahead_next,
          dif_pos further, ih, Place.index_next]
        cases reachBehind answer (place.index + 1) (spans set rest ++ [([], rest)]) <;> rfl
      · simp only [prefer, if_true, orElse, run_chars_of_not_mem ahead member]
        simp only [ahead, spans, if_neg member, List.nil_append]

/-- Greedy repetition of a character of a set, at least once. -/
theorem run_oneOrMore_chars
    (set : CharSet)
    (answer : Nat → Text → Option Notes)
    (place : Place) :
    (Expr.repeated 1 none true (.chars set)).run (goalOf answer) place =
      reachBehind answer place.index (spans set place.ahead) := by
  have once : (Expr.repeated 1 none true (.chars set)).run (goalOf answer) place =
      onceOrMore (Expr.chars set).run true (goalOf answer) place := rfl
  rw [once, onceOrMore]
  cases ahead : place.ahead with
  | nil =>
      rw [run_chars_of_nil ahead]
      rfl
  | cons character rest =>
      by_cases member : set.contains character = true
      · have further : (place.next character rest).ahead.length < (character :: rest).length := by
          simp
        have spanned : spans set (character :: rest) =
            (spans set rest ++ [([], rest)]).map
              fun span : Text × Text => (character :: span.1, span.2) := by
          simp [spans, member]
        rw [run_chars_of_mem ahead member, if_pos further, again_chars, spanned,
          reachBehind_map_cons]
        rfl
      · rw [run_chars_of_not_mem ahead member, spans, if_neg member]
        rfl

/-- Greedy repetition of a character of a set, any number of times. -/
theorem run_anyNumber_chars
    (set : CharSet)
    (answer : Nat → Text → Option Notes)
    (place : Place) :
    (Expr.repeated 0 none true (.chars set)).run (goalOf answer) place =
      reachBehind answer place.index (spans set place.ahead ++ [([], place.ahead)]) := by
  have preferred : (Expr.repeated 0 none true (.chars set)).run (goalOf answer) place =
      orElse (fun _ => (Expr.repeated 1 none true (.chars set)).run (goalOf answer) place)
        (fun _ => goalOf answer place) := rfl
  have last : reachBehind answer place.index [([], place.ahead)] = goalOf answer place := by
    simp [reachBehind, goalOf]
  rw [preferred, run_oneOrMore_chars, reachBehind_append, last, orElse]
  cases reachBehind answer place.index (spans set place.ahead) <;> rfl

/-- Whatever stands in a list of spans is a beginning of the text. -/
theorem eq_append_of_mem_spans
    {set : CharSet}
    {text span rest : Text}
    (present : (span, rest) ∈ spans set text) :
    text = span ++ rest := by
  induction text generalizing span with
  | nil => simp [spans] at present
  | cons character text ih =>
      simp only [spans] at present
      split at present
      · rcases List.mem_append.mp present with longer | shortest
        · obtain ⟨⟨others, more⟩, found, equal⟩ := List.mem_map.mp longer
          cases equal
          rw [ih found, List.cons_append]
        · cases List.mem_singleton.mp shortest
          rfl
      · cases present

theorem findSome?_congr
    {α β : Type}
    {list : List α}
    {first second : α → Option β}
    (agree : ∀ member ∈ list, first member = second member) :
    list.findSome? first = list.findSome? second := by
  induction list with
  | nil => rfl
  | cons member list ih =>
      rw [List.findSome?_cons, List.findSome?_cons, agree member (List.mem_cons_self ..),
        ih fun other present => agree other (List.mem_cons_of_mem _ present)]

namespace Reader

/-- The group of a variable takes a span without a slash and notes it. -/
theorem run_segmentExpr
    (index : Nat)
    (answer : Text → Option Notes)
    (place : Place) :
    (segmentExpr index).run (fun next => answer next.ahead) place =
      (spans (.compl (.single '/')) place.ahead).findSome? fun (span, rest) =>
        (answer rest).map (note index span) := by
  have noted : (segmentExpr index).run (fun next => answer next.ahead) place =
      (Expr.repeated 1 none true (.chars (.compl (.single '/')))).run
        (goalOf fun later rest =>
          (answer rest).map (note index (place.ahead.take (later - place.index)))) place := rfl
  rw [noted, run_oneOrMore_chars, reachBehind]
  apply findSome?_congr
  rintro ⟨span, rest⟩ present
  simp only [Nat.add_sub_cancel_left, eq_append_of_mem_spans present, List.take_left]

end Reader

theorem run_foldl_seq (first : Expr) (rest : List Expr) (goal : Goal) :
    (rest.foldl .seq first).run goal = first.run (rest.foldr Expr.run goal) := by
  induction rest generalizing first with
  | nil => rfl
  | cons second rest ih =>
      rw [List.foldl_cons, ih]
      rfl

theorem run_concat (exprs : List Expr) (goal : Goal) :
    (Expr.concat exprs).run goal = exprs.foldr Expr.run goal := by
  cases exprs with
  | nil => rfl
  | cons first rest => exact run_foldl_seq first rest goal

/-- The goal to have come to the end of the text. -/
def atEnd : Goal := fun place => if place.ahead.isEmpty then some [] else none

/-- Behind the beginning of a text some character has been passed. -/
theorem last_isSome_of_mem_onward
    {place later : Place}
    (reached : later ∈ place.onward)
    (passed : place.last.isSome = true) :
    later.last.isSome = true := by
  induction place using Place.inductionOn with
  | ended place ahead =>
      rw [Place.onward_of_nil ahead, List.mem_singleton] at reached
      rw [reached, passed]
  | step place character rest ahead ih =>
      rw [Place.onward_of_cons ahead, List.mem_cons] at reached
      rcases reached with same | behind
      · rw [same, passed]
      · exact ih behind rfl

/-- An expression that is anchored at the beginning of a text runs nowhere else. -/
theorem run_wholeExpr_of_last
    {place : Place}
    (passed : place.last.isSome = true)
    (exprs : List Expr)
    (goal : Goal) :
    (Reader.wholeExpr exprs).run goal place = none := by
  have inside : place.last.isNone = false := by simp [Option.isNone_eq_false_iff, passed]
  simp [Reader.wholeExpr, Expr.run, Place.satisfies, inside]

/-- A search for an anchored sequence of expressions runs them from the beginning to the end. -/
theorem search?_wholeExpr (exprs : List Expr) (text : Text) :
    (⟨Reader.wholeExpr exprs⟩ : Regex).search? text =
      exprs.foldr Expr.run atEnd (.start text) := by
  have matchAt : (⟨Reader.wholeExpr exprs⟩ : Regex).matchAt? =
      (Reader.wholeExpr exprs).run fun _ => some [] := by
    funext place
    rw [matchAt?, Expr.runShared_eq_run]
  have first : (Reader.wholeExpr exprs).run (fun _ => some []) (.start text) =
      exprs.foldr Expr.run atEnd (.start text) := by
    rw [← run_concat]
    rfl
  rw [search?, matchAt, ← first]
  cases text with
  | nil =>
      rw [Place.onward_of_nil rfl]
      simp only [List.findSome?_cons, List.findSome?_nil]
      cases (Reader.wholeExpr exprs).run (fun _ => some []) (.start []) <;> rfl
  | cons character rest =>
      rw [Place.onward_of_cons rfl, List.findSome?_cons]
      cases (Reader.wholeExpr exprs).run (fun _ => some []) (.start (character :: rest)) with
      | some notes => rfl
      | none =>
          rw [List.findSome?_eq_none_iff]
          intro later behind
          exact run_wholeExpr_of_last (last_isSome_of_mem_onward behind rfl) exprs _

end Regex
end ResourceRouting
