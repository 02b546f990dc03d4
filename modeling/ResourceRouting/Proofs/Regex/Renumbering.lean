import ResourceRouting.Regex

/-!
# Renumbering groups

An expression that is read inside a larger one has the same form there; only its groups get other
numbers.
-/

namespace ResourceRouting
namespace Regex
namespace Expr

/-- The expression with the numbers of its groups increased. -/
def shift (offset : Nat) : Expr → Expr
  | empty => empty
  | chars set => chars set
  | anchor condition => anchor condition
  | seq first second => seq (first.shift offset) (second.shift offset)
  | alt first second => alt (first.shift offset) (second.shift offset)
  | group index inner => group (index + offset) (inner.shift offset)
  | repeated least most greedy inner => repeated least most greedy (inner.shift offset)

variable (offset : Nat)

@[simp]
theorem consumesNothing_shift (expr : Expr) :
    (expr.shift offset).consumesNothing = expr.consumesNothing := by
  induction expr with
  | seq first second firstSame secondSame =>
      simp only [shift, consumesNothing, firstSame, secondSame]
  | alt first second firstSame secondSame =>
      simp only [shift, consumesNothing, firstSame, secondSame]
  | group index inner same => exact same
  | repeated least most greedy inner same => exact same
  | _ => rfl

@[simp]
theorem shift_times (least : Nat) (most : Option Nat) (greedy : Bool) (inner : Expr) :
    (times least most greedy inner).shift offset =
      times least most greedy (inner.shift offset) := by
  simp only [times, consumesNothing_shift]
  split
  · split
    · rfl
    · split <;> rfl
  · split
    · rfl
    · split <;> rfl

theorem shift_concat (exprs : List Expr) :
    (concat exprs).shift offset = concat (exprs.map (shift offset)) := by
  have folded : ∀ (start : Expr) (rest : List Expr),
      (rest.foldl seq start).shift offset =
        (rest.map (shift offset)).foldl seq (start.shift offset) := by
    intro start rest
    induction rest generalizing start with
    | nil => rfl
    | cons expr rest ih => exact ih (seq start expr)
  cases exprs with
  | nil => rfl
  | cons first rest => exact folded first rest

theorem shift_oneOf (exprs : List Expr) :
    (oneOf exprs).shift offset = oneOf (exprs.map (shift offset)) := by
  induction exprs with
  | nil => rfl
  | cons first rest ih =>
      cases rest with
      | nil => rfl
      | cons second others =>
          have both : (oneOf (first :: second :: others)).shift offset =
              alt (first.shift offset) ((oneOf (second :: others)).shift offset) := rfl
          rw [both, ih]
          rfl

end Expr

namespace Reader

/-- What stands around an expression that is read inside a larger one. -/
structure Around where
  /-- How many groups have been begun before it. -/
  offset : Nat
  /-- The names of these groups. -/
  names : List Text
  /-- The groups that it stands in, the innermost first. -/
  frames : List Frame

variable (offset : Nat)

/-- The piece with the numbers of its groups increased. -/
def Piece.shift (piece : Piece) : Piece :=
  ⟨piece.expr.shift offset, piece.depth⟩

/-- The item with the numbers of its groups increased. -/
def Item.shift : Item → Item
  | piece read => .piece (read.shift offset)
  | switch => switch

/-- The frame with the numbers of its groups increased. -/
def Frame.shift (frame : Frame) : Frame where
  index := frame.index.map (· + offset)
  flags := frame.flags
  branches := frame.branches.map (Piece.shift offset)
  items := frame.items.map (Item.shift offset)

theorem toPiece_shift (item : Item) : (item.shift offset).toPiece = item.toPiece.shift offset := by
  cases item <;> rfl

/-- Pieces are joined with other numbers as they are joined with their own. -/
theorem joined_shift
    {join : List Expr → Expr}
    (commutes : ∀ exprs, (join exprs).shift offset = join (exprs.map (Expr.shift offset)))
    (pieces : List Piece) :
    (⟨join ((pieces.map (Piece.shift offset)).map Piece.expr),
        ((pieces.map (Piece.shift offset)).map Piece.depth).foldl max 0 + 1⟩ : Piece) =
      Piece.shift offset
        ⟨join (pieces.map Piece.expr), (pieces.map Piece.depth).foldl max 0 + 1⟩ := by
  rw [Piece.shift, commutes, List.map_map, List.map_map, List.map_map]
  rfl

theorem sequence_shift (items : List Item) :
    sequence (items.map (Item.shift offset)) = (sequence items).shift offset := by
  have pieces : (items.map (Item.shift offset)).map Item.toPiece =
      (items.map Item.toPiece).map (Piece.shift offset) := by
    rw [List.map_map, List.map_map]
    exact List.map_congr_left fun item _ => toPiece_shift offset item
  unfold sequence
  rw [pieces]
  cases items.map Item.toPiece with
  | nil => rfl
  | cons first rest =>
      cases rest with
      | nil => rfl
      | cons second others =>
          exact joined_shift offset (Expr.shift_concat offset) (first :: second :: others)

namespace State

/-- The state of reading the same expression inside a larger one. -/
def within (around : Around) (state : State) : State where
  flags := state.flags
  nextGroup := state.nextGroup + around.offset
  names := state.names ++ around.names
  branches := state.branches.map (Piece.shift around.offset)
  items := state.items.map (Item.shift around.offset)
  frames := state.frames.map (Frame.shift around.offset) ++ around.frames

variable (around : Around) (state : State)

@[simp]
theorem flags_within : (state.within around).flags = state.flags := rfl

theorem body_within : (state.within around).body = state.body.shift around.offset := by
  have last : sequence (state.within around).items.reverse =
      (sequence state.items.reverse).shift around.offset := by
    rw [within, ← List.map_reverse, sequence_shift]
  unfold body
  rw [last]
  obtain ⟨flags, nextGroup, names, branches, items, frames⟩ := state
  cases branches with
  | nil => rfl
  | cons branch branches =>
      have joined := joined_shift around.offset (Expr.shift_oneOf around.offset)
        (sequence items.reverse :: branch :: branches).reverse
      rw [List.map_reverse] at joined
      exact joined

theorem push_within (expr : Expr) (depth : Nat) :
    (state.within around).push (expr.shift around.offset) depth =
      (state.push expr depth).within around := rfl

theorem endBranch_within : (state.within around).endBranch = state.endBranch.within around := by
  unfold endBranch
  rw [within, within, ← List.map_reverse, sequence_shift]
  rfl

variable {state}

theorem closeGroup?_within {closed : State} (found : state.closeGroup? = some closed) :
    (state.within around).closeGroup? = some (closed.within around) := by
  have body := state.body_within around
  obtain ⟨flags, nextGroup, names, branches, items, frames⟩ := state
  cases frames with
  | nil => cases found
  | cons frame frames =>
      obtain ⟨index, outer, earlier, before⟩ := frame
      have same := Option.some.inj found
      subst same
      simp only [closeGroup?, within, List.map_cons, List.cons_append, Frame.shift] at body ⊢
      rw [body]
      cases index <;> rfl

theorem repeatLast?_within
    {least : Nat}
    {most : Option Nat}
    {lazy : Bool}
    {repeated : State}
    (found : state.repeatLast? least most lazy = some repeated) :
    (state.within around).repeatLast? least most lazy = some (repeated.within around) := by
  obtain ⟨flags, nextGroup, names, branches, items, frames⟩ := state
  cases items with
  | nil => cases found
  | cons item items =>
      cases item with
      | switch => cases found
      | piece read =>
          have same := Option.some.inj found
          subst same
          simp [repeatLast?, within, Item.shift, Piece.shift]

end State

variable {state after : State} {text rest : Text} (around : Around)

/-- A repetition mark does inside what it does outside. -/
theorem map_repeatLast?_within
    {least : Nat}
    {most : Option Nat}
    {lazy : Bool}
    {behind : Text}
    (found : (state.repeatLast? least most lazy).map (·, behind) = some (after, rest)) :
    ((state.within around).repeatLast? least most lazy).map (·, behind) =
      some (after.within around, rest) := by
  obtain ⟨repeated, repeats, equal⟩ := Option.map_eq_some_iff.mp found
  cases equal
  rw [State.repeatLast?_within around repeats, Option.map_some]

theorem openNoted_within : openNoted (state.within around) = (openNoted state).within around := by
  simp [openNoted, State.within, State.openGroup, Frame.shift, Nat.add_right_comm]

/-- The head of a named group is read inside as well, unless the name is taken there. -/
theorem openNamed_within (found : openNamed state text = some (after, rest)) :
    openNamed (state.within around) text = some (after.within around, rest) ∨
      openNamed (state.within around) text = none := by
  obtain ⟨⟨name, behind⟩, named, found⟩ := Option.bind_eq_some_iff.mp found
  dsimp only at found
  split at found
  · cases found
  · cases found
    have read : openNamed (state.within around) text =
        if (state.within around).names.contains name then none
        else
          some ({ openNoted (state.within around) with
            names := name :: (state.within around).names }, rest) := by
      rw [openNamed, named]
      rfl
    rw [read]
    split
    · exact .inr rfl
    · rw [openNoted_within]
      exact .inl rfl

theorem readGroup_within (found : readGroup state text = some (after, rest)) :
    readGroup (state.within around) text = some (after.within around, rest) ∨
      readGroup (state.within around) text = none := by
  unfold readGroup at found ⊢
  rw [State.flags_within]
  split at found
  case h_1 => cases found
  case h_2 => cases found
  case h_3 => cases found
  case h_4 => cases found
  case h_5 => exact openNamed_within around found
  case h_6 => exact openNamed_within around found
  case h_7 =>
    left
    obtain ⟨⟨seen, flags, ends, behind⟩, switches, found⟩ := Option.bind_eq_some_iff.mp found
    simp only [switches, Option.bind_eq_bind, Option.bind_some] at found ⊢
    cases ends with
    | false =>
        cases found
        rfl
    | true =>
        cases seen with
        | nil => cases found
        | cons first others =>
            cases found
            rfl
  case h_8 =>
    cases found
    rw [openNoted_within]
    exact .inl rfl

theorem shift_classExpr? {flags : Flags} {set : CharSet} {expr : Expr}
    (found : flags.classExpr? set = some expr) :
    expr.shift around.offset = expr := by
  obtain ⟨members, _, rfl⟩ := Option.map_eq_some_iff.mp found
  rfl

theorem shift_literalExpr (flags : Flags) (character : Char) :
    (flags.literalExpr character).shift around.offset = flags.literalExpr character := by
  unfold Flags.literalExpr
  split <;> rfl

theorem shift_dotExpr? {flags : Flags} {expr : Expr} (found : flags.dotExpr? = some expr) :
    expr.shift around.offset = expr := by
  unfold Flags.dotExpr? at found
  split at found
  · cases found
    rfl
  · cases found

theorem shift_escape {flags : Flags} {escape : Escape} {expr : Expr}
    (found : escape.expr? flags = some expr) :
    expr.shift around.offset = expr := by
  cases escape with
  | literal character byte =>
      rw [Escape.expr?] at found
      split at found
      · cases found
      · cases found
        exact shift_literalExpr around flags character
  | set members => exact shift_classExpr? around found
  | anchor condition =>
      cases found
      rfl

/--
A step that is made in an expression is made inside a larger one as well, unless it begins a group
whose name is taken there.
-/
theorem step_within (found : step state text = some (after, rest)) :
    step (state.within around) text = some (after.within around, rest) ∨
      step (state.within around) text = none := by
  unfold step at found ⊢
  rw [State.flags_within]
  split at found
  case h_1 => cases found
  case h_2 => exact readGroup_within around found
  case h_3 =>
    obtain ⟨closed, closes, equal⟩ := Option.map_eq_some_iff.mp found
    cases equal
    simp only [State.closeGroup?_within around closes, Option.map_some, true_or]
  case h_4 =>
    cases found
    simp only [State.endBranch_within, true_or]
  case h_5 =>
    obtain ⟨⟨part, behind⟩, bracket, found⟩ := Option.bind_eq_some_iff.mp found
    obtain ⟨expr, class', equal⟩ := Option.bind_eq_some_iff.mp found
    cases equal
    have same := shift_classExpr? around class'
    simp only [bracket, class', Option.bind_eq_bind, Option.bind_some]
    rw [← State.push_within, same]
    exact .inl rfl
  case h_9 =>
    obtain ⟨⟨bounds, behind⟩, bounded, found⟩ := Option.bind_eq_some_iff.mp found
    simp only [bounded, Option.bind_eq_bind, Option.bind_some]
    have outside : (state.repeatLast? bounds.1 bounds.2 (readLazy behind).1).map
        (·, (readLazy behind).2) = some (after, rest) := Option.map_eq_bind.trans found
    have marked := map_repeatLast?_within around outside
    exact .inl (Option.map_eq_bind.symm.trans marked)
  case h_10 =>
    obtain ⟨⟨escape, behind⟩, escaped, found⟩ := Option.bind_eq_some_iff.mp found
    obtain ⟨expr, denoted, equal⟩ := Option.bind_eq_some_iff.mp found
    cases equal
    have same := shift_escape around denoted
    simp only [escaped, denoted, Option.bind_eq_bind, Option.bind_some]
    rw [← State.push_within, same]
    exact .inl rfl
  case h_11 =>
    obtain ⟨expr, dot, equal⟩ := Option.map_eq_some_iff.mp found
    cases equal
    have same := shift_dotExpr? around dot
    simp only [dot, Option.map_some]
    rw [← State.push_within, same]
    exact .inl rfl
  case h_12 =>
    cases found
    exact .inl rfl
  case h_13 =>
    cases found
    exact .inl rfl
  case h_14 =>
    cases found
    rw [← State.push_within, shift_literalExpr]
    exact .inl rfl
  -- The three repetition marks differ in their bounds only.
  all_goals exact .inl (map_repeatLast?_within around found)

end Reader
end Regex
end ResourceRouting
