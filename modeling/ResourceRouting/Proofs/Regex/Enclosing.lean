import ResourceRouting.Proofs.Regex.Extending.Bracket
import ResourceRouting.Proofs.Regex.Renumbering

/-!
# Expressions in parentheses

An expression that is valid alone and in parentheses is read in the same way wherever it stands in
parentheses: as one group that holds it, with the numbers of its own groups increased.
-/

namespace ResourceRouting
namespace Regex
namespace Reader

theorem readLazy_append (text others : Text) :
    readLazy (text ++ ')' :: others) = ((readLazy text).1, (readLazy text).2 ++ ')' :: others) := by
  fun_cases readLazy text with
  | case1 rest => rfl
  | case2 text bare =>
      rw [readLazy]
      exact Text.append_ne_cons bare (by decide) others

theorem readDecimals_append
    {flags : Flags}
    {text : Text}
    (left : (readDecimals flags text).2 ≠ [])
    (others : Text) :
    readDecimals flags (text ++ ')' :: others) =
      ((readDecimals flags text).1, (readDecimals flags text).2 ++ ')' :: others) := by
  fun_induction readDecimals flags text with
  | case1 => exact absurd rfl left
  | case2 digit rest decimal more after parted ih =>
      rw [parted] at ih
      have skipped : flags.skip rest ≠ [] := by
        intro ended
        rw [ended, readDecimals] at parted
        cases parted
        exact left rfl
      rw [List.cons_append, readDecimals, if_pos decimal, Flags.skip_append skipped, ih left]
  | case3 digit rest other => rw [List.cons_append, readDecimals, if_neg other]

theorem dropWhile_isBlank_append (text others : Text) :
    (text ++ ')' :: others).dropWhile Unicode.isBlank =
      text.dropWhile Unicode.isBlank ++ ')' :: others := by
  have blank : Unicode.isBlank ')' = false := by decide
  rw [List.dropWhile_append, List.dropWhile_cons, blank]
  split
  · rename_i ended
    rw [List.isEmpty_iff.mp ended]
    rfl
  · rfl

theorem readNumber_append
    {flags : Flags}
    {text after : Text}
    {number : Nat}
    (found : readNumber flags text = some (number, after))
    (left : after ≠ [])
    (others : Text) :
    readNumber flags (text ++ ')' :: others) = some (number, after ++ ')' :: others) := by
  dsimp only [readNumber] at found ⊢
  split at found
  · cases found
  · rename_i small
    cases found
    have behind : (readDecimals flags (text.dropWhile Unicode.isBlank)).2 ≠ [] := by
      intro ended
      rw [ended] at left
      exact left rfl
    rw [dropWhile_isBlank_append, readDecimals_append behind]
    dsimp only
    rw [if_neg small, dropWhile_isBlank_append]

theorem readMost_append
    {flags : Flags}
    {least : Nat}
    {text after : Text}
    {bounds : Nat × Option Nat}
    (found : readMost flags least text = some (bounds, after))
    (left : after ≠ [])
    (others : Text) :
    readMost flags least (text ++ ')' :: others) = some (bounds, after ++ ')' :: others) := by
  fun_cases readMost flags least text with
  | case1 rest more closed =>
      have longer := Flags.skip_append (by rw [closed]; exact List.cons_ne_nil _ _) others
      rw [closed, List.cons_append] at longer
      rw [readMost, closed] at found
      cases found
      rw [List.cons_append, readMost, longer]
      rfl
  | case2 rest bare =>
      rw [readMost] at found
      split at found
      · exact absurd ‹_› (bare _)
      · obtain ⟨⟨most, behind⟩, number, equal⟩ := Option.bind_eq_some_iff.mp found
        cases equal
        have skipped : flags.skip rest ≠ [] := by
          intro ended
          rw [ended] at number
          simp [readNumber, readDecimals] at number
        rw [List.cons_append, readMost, Flags.skip_append skipped]
        split
        · exact absurd ‹_› (Text.append_ne_cons bare (by decide) _ _)
        · simp only [readNumber_append number left, Option.bind_eq_bind, Option.bind_some]
  | case3 text bare =>
      rw [readMost] at found <;> try assumption
      cases found
      rw [readMost]
      exact Text.append_ne_cons bare (by decide) others

theorem readBounds_extends
    {flags : Flags}
    {text after : Text}
    {bounds : Nat × Option Nat}
    (found : readBounds flags text = some (bounds, after)) :
    Extends (readBounds flags) text bounds after := by
  obtain ⟨⟨least, afterLeast⟩, first, found⟩ := Option.bind_eq_some_iff.mp found
  obtain ⟨⟨both, afterBounds⟩, second, found⟩ := Option.bind_eq_some_iff.mp found
  dsimp only at second found
  split at found
  · rename_i rest
    split at found
    · rename_i ordered
      cases found
      have filled : afterLeast ≠ [] := by
        rintro rfl
        exact absurd (length_readMost second) (by simp)
      have skipped : flags.skip text ≠ [] := by
        intro ended
        rw [ended] at first
        simp [readNumber, readDecimals] at first
      apply Extends.beforeSkip
      intro others
      simp only [readBounds, Flags.skip_append skipped, readNumber_append first filled,
        readMost_append second (List.cons_ne_nil _ _), Option.bind_eq_bind, Option.bind_some,
        List.cons_append, if_pos ordered]
    · cases found
  · cases found

theorem readName_append
    {text name after : Text}
    (found : readName text = some (name, after))
    (others : Text) :
    readName (text ++ others) = some (name, after ++ others) := by
  obtain ⟨⟨before, rest⟩, parted, found⟩ := Option.bind_eq_some_iff.mp found
  simp only [readName, Text.cut_append parted, Option.bind_eq_bind, Option.bind_some] at found ⊢
  split at found
  · cases found
  · split at found
    · rename_i named
      cases found
      exact if_pos named
    · cases found

theorem readSwitches_append
    {seen final : List (Option Flag)}
    {on ends : Bool}
    {flags switched : Flags}
    {text after : Text}
    (found : readSwitches seen on flags text = some (final, switched, ends, after))
    (others : Text) :
    readSwitches seen on flags (text ++ others) =
      some (final, switched, ends, after ++ others) := by
  fun_induction readSwitches seen on flags text with
  | case1 => cases found
  | case2 => cases found
  | case3 seen on flags rest more =>
      cases found
      rw [List.cons_append, readSwitches, if_neg more]
  | case4 => cases found
  | case5 seen on flags rest more =>
      cases found
      rw [List.cons_append, readSwitches, if_neg more]
  | case6 => cases found
  | case7 seen on flags rest more ih => rw [List.cons_append, readSwitches, if_neg more, ih found]
  | case8 => cases found
  | case9 => cases found
  | case10 seen on flags letter rest colon parenthesis hyphen flag known fresh ih =>
      rw [List.cons_append, readSwitches] <;> try assumption
      rw [known]
      dsimp only
      rw [if_neg fresh, ih found]

theorem openNamed_append
    {state opened : State}
    {text after : Text}
    (found : openNamed state text = some (opened, after))
    (others : Text) :
    openNamed state (text ++ others) = some (opened, after ++ others) := by
  obtain ⟨⟨name, rest⟩, named, found⟩ := Option.bind_eq_some_iff.mp found
  simp only [openNamed, readName_append named, Option.bind_eq_bind, Option.bind_some] at found ⊢
  split at found
  · cases found
  · rename_i fresh
    cases found
    exact if_neg fresh

/-- Reads the head of a group behind blanks and comments. -/
def groupFrom (state : State) : Text → Option (State × Text)
  | '?' :: '=' :: _ => none
  | '?' :: '!' :: _ => none
  | '?' :: '<' :: '=' :: _ => none
  | '?' :: '<' :: '!' :: _ => none
  | '?' :: 'P' :: '<' :: rest => openNamed state rest
  | '?' :: '<' :: rest => openNamed state rest
  | '?' :: rest => do
      let (seen, flags, ends, after) ← readSwitches [] true state.flags rest
      if ends then
        if seen.isEmpty then none
        else some ({ state with flags := flags, items := .switch :: state.items }, after)
      else
        some (state.openGroup none flags, after)
  | rest => some (openNoted state, rest)

theorem readGroup_eq (state : State) (text : Text) :
    readGroup state text = groupFrom state (state.flags.skip text) := rfl

/-- A parenthesis without a question mark behind it begins a group that is noted. -/
theorem groupFrom_of_bare
    {text : Text}
    (bare : ∀ rest, text ≠ '?' :: rest)
    (state : State) :
    groupFrom state text = some (openNoted state, text) := by
  unfold groupFrom
  split
  case h_8 => rfl
  all_goals exact absurd rfl (bare _)

theorem groupFrom_append
    {state opened : State}
    {text after : Text}
    (found : groupFrom state text = some (opened, after))
    (others : Text) :
    groupFrom state (text ++ ')' :: others) = some (opened, after ++ ')' :: others) := by
  fun_cases groupFrom state text with
  | case1 => cases found
  | case2 => cases found
  | case3 => cases found
  | case4 => cases found
  | case5 rest => exact openNamed_append found _
  | case6 rest behind ahead =>
      rw [groupFrom] at found <;> try assumption
      rw [List.cons_append, List.cons_append, groupFrom]
      · exact openNamed_append found _
      · exact Text.append_ne_cons behind (by decide) others
      · exact Text.append_ne_cons ahead (by decide) others
  | case7 rest ahead notAhead behind notBehind named angle =>
      rw [groupFrom] at found <;> try assumption
      obtain ⟨⟨seen, flags, ends, left⟩, switches, found⟩ := Option.bind_eq_some_iff.mp found
      rw [List.cons_append, groupFrom, readSwitches_append switches]
      · simp only [Option.bind_eq_bind, Option.bind_some] at found ⊢
        cases ends with
        | false =>
            cases found
            rfl
        | true =>
            cases seen with
            | nil => cases found
            | cons first more =>
                cases found
                rfl
      · exact Text.append_ne_cons ahead (by decide) others
      · exact Text.append_ne_cons notAhead (by decide) others
      · exact @Text.append_ne_append _ ['<', '='] _ behind (by decide) others
      · exact @Text.append_ne_append _ ['<', '!'] _ notBehind (by decide) others
      · exact @Text.append_ne_append _ ['P', '<'] _ named (by decide) others
      · exact Text.append_ne_cons angle (by decide) others
  | case8 text _ _ _ _ _ _ bare =>
      rw [groupFrom_of_bare bare] at found
      rw [groupFrom_of_bare (Text.append_ne_cons bare (by decide) others)]
      cases found
      rfl

/-- The head of a group is the same when more follows, unless nothing was left behind it. -/
theorem readGroup_append
    {state opened : State}
    {text after : Text}
    (found : readGroup state text = some (opened, after))
    (left : after ≠ [] ∨ opened.frames = [])
    (others : Text) :
    readGroup state (text ++ ')' :: others) = some (opened, after ++ ')' :: others) := by
  rw [readGroup_eq] at found ⊢
  have skipped : state.flags.skip text ≠ [] := by
    intro ended
    rw [ended] at found
    cases found
    rcases left with filled | closed
    · exact filled rfl
    · cases closed
  rw [Flags.skip_append skipped, groupFrom_append found]

/-- Reading a repetition mark, lazy or not, behind its bounds. -/
theorem map_repeatLast?_append
    {state after : State}
    {least : Nat}
    {most : Option Nat}
    {text rest : Text}
    (found : (state.repeatLast? least most (readLazy text).1).map (·, (readLazy text).2) =
      some (after, rest))
    (others : Text) :
    (state.repeatLast? least most (readLazy (text ++ ')' :: others)).1).map
        (·, (readLazy (text ++ ')' :: others)).2) =
      some (after, rest ++ ')' :: others) := by
  obtain ⟨repeated, repeats, equal⟩ := Option.map_eq_some_iff.mp found
  cases equal
  rw [readLazy_append, repeats, Option.map_some]

theorem step_brace (state : State) (text : Text) :
    step state ('{' :: text) =
      (readBounds state.flags text).bind fun (bounds, behind) =>
        (state.repeatLast? bounds.1 bounds.2 (readLazy behind).1).map
          (·, (readLazy behind).2) := by
  simp only [step, Option.bind_eq_bind, Option.map_eq_bind]
  rfl

theorem step_backslash (state : State) (text : Text) :
    step state ('\\' :: text) =
      (Escape.read state.flags text).bind fun (escape, behind) =>
        ((escape.expr? state.flags).map fun expr => state.push expr 0).map (·, behind) := by
  simp only [step, Option.bind_eq_bind, Option.map_eq_bind, Option.bind_assoc]
  rfl

/-- A step of the reader is the same when a parenthesis follows, unless it begins a group. -/
theorem step_extends
    {state after : State}
    {text rest : Text}
    (found : step state text = some (after, rest))
    (left : rest ≠ [] ∨ after.frames = []) :
    Extends (step state) text after rest := by
  unfold step at found
  split at found
  case h_1 => cases found
  case h_2 => exact .kept (readGroup_append found left)
  case h_3 =>
    obtain ⟨closed, closes, equal⟩ := Option.map_eq_some_iff.mp found
    cases equal
    exact .kept fun others => by rw [List.cons_append, step, closes, Option.map_some]
  case h_5 =>
    obtain ⟨⟨part, behind⟩, bracket, found⟩ := Option.bind_eq_some_iff.mp found
    obtain ⟨expr, known, equal⟩ := Option.bind_eq_some_iff.mp found
    cases equal
    refine .kept fun others => ?_
    simp only [List.cons_append, step, Bracket.read_append bracket, known, Option.bind_eq_bind,
      Option.bind_some]
  case h_9 =>
    obtain ⟨⟨bounds, behind⟩, bounded, found⟩ := Option.bind_eq_some_iff.mp found
    have marked : (state.repeatLast? bounds.1 bounds.2 (readLazy behind).1).map
        (·, (readLazy behind).2) = some (after, rest) := Option.map_eq_bind.trans found
    cases readBounds_extends bounded with
    | kept leaves =>
        refine .kept fun others => ?_
        rw [List.cons_append, step_brace, leaves, Option.bind_some]
        exact map_repeatLast?_append marked others
    | swallowed ends =>
        obtain ⟨repeated, repeats, equal⟩ := Option.map_eq_some_iff.mp marked
        cases equal
        refine .swallowed ?_
        rw [List.cons_append, step_brace, ends, Option.bind_some]
        exact marked
  case h_10 =>
    obtain ⟨⟨escape, behind⟩, escaped, found⟩ := Option.bind_eq_some_iff.mp found
    obtain ⟨expr, known, equal⟩ := Option.bind_eq_some_iff.mp found
    cases equal
    let pushed : Escape → Option State := fun escape =>
      (escape.expr? state.flags).map fun expr => state.push expr 0
    have found : pushed escape = some (state.push expr 0) := by
      simp only [pushed, known, Option.map_some]
    exact ((Escape.read_extends escaped).bind pushed found).prepend (step_backslash state)
  case h_11 =>
    obtain ⟨expr, dot, equal⟩ := Option.map_eq_some_iff.mp found
    cases equal
    exact .kept fun others => by rw [List.cons_append, step, dot, Option.map_some]
  case h_6 => exact .kept fun others => map_repeatLast?_append found others
  case h_7 => exact .kept fun others => map_repeatLast?_append found others
  case h_8 => exact .kept fun others => map_repeatLast?_append found others
  case h_14 =>
    cases found
    refine .kept fun others => ?_
    rw [List.cons_append, step] <;> try assumption
  all_goals
    cases found
    exact .kept fun _ => rfl

/-- Where no step can be made there is no expression. -/
theorem readRest_of_step_eq_none
    {state : State}
    {text : Text}
    (left : state.flags.skip text ≠ [])
    (stuck : step state (state.flags.skip text) = none) :
    readRest state text = none := by
  rw [readRest]
  split
  · rename_i ended _
    exact absurd ended left
  · rename_i next more _ nonempty _
    split
    · rfl
    · rename_i found
      rw [nonempty, found] at stuck
      cases stuck

theorem skip_parenthesis (flags : Flags) (others : Text) :
    flags.skip (')' :: others) = ')' :: others := by
  have blank : Unicode.isBlank ')' = false := by decide
  simp [Flags.skip, Flags.skipFrom, blank]

/-- What is read behind blanks and comments depends on the rest of the text only. -/
theorem readRest_congr
    {state : State}
    {first second : Text}
    (same : state.flags.skip first = state.flags.skip second) :
    readRest state first = readRest state second := by
  cases ended : state.flags.skip second with
  | nil => rw [readRest_of_skip_eq_nil (same.trans ended), readRest_of_skip_eq_nil ended]
  | cons next more =>
      have left : state.flags.skip second ≠ [] := by
        rw [ended]
        exact List.cons_ne_nil _ _
      cases taken : step state (state.flags.skip second) with
      | none =>
          rw [readRest_of_step_eq_none left taken,
            readRest_of_step_eq_none (same ▸ left) (same ▸ taken)]
      | some found =>
          obtain ⟨after, rest⟩ := found
          rw [readRest_of_taken taken, readRest_of_taken (same ▸ taken)]

/-- A step inside a larger expression is the step that is made alone. -/
theorem readRest_within_of_taken
    {state after result : State}
    {around : Around}
    {text rest : Text}
    (taken : step state (state.flags.skip text) = some (after, rest))
    (found : readRest (state.within around) text = some result) :
    readRest (after.within around) rest = some result := by
  rcases step_within around taken with inside | stuck
  · rwa [readRest_of_taken inside] at found
  · have left : (state.within around).flags.skip text ≠ [] := by
      intro ended
      rw [State.flags_within] at ended
      rw [ended] at taken
      cases taken
    rw [readRest_of_step_eq_none left stuck] at found
    cases found

/--
An expression that is read alone is read inside a larger one up to the parenthesis behind it,
unless it ends in a comment, which swallows the parenthesis.
-/
theorem readRest_within
    {state final : State}
    {text : Text}
    (found : readRest state text = some final)
    (closed : final.frames = []) :
    (∀ around others result,
        readRest (state.within around) (text ++ ')' :: others) = some result →
          readRest (final.within around) (')' :: others) = some result) ∨
      ∀ around result, readRest (state.within around) (text ++ [')']) = some result →
        result = final.within around := by
  -- Along the reader's own steps; the last one decides which of the two it is.
  induction state, text using readRest.induct with
  | case1 state text _ ended =>
      rw [readRest_of_skip_eq_nil ended] at found
      cases found
      rcases final.flags.skip_cases text with kept | ⟨_, swallowed⟩
      · left
        intro around others result inside
        have skipped : (final.within around).flags.skip (text ++ ')' :: others) =
            (final.within around).flags.skip (')' :: others) := by
          rw [State.flags_within, kept, ended, skip_parenthesis]
          rfl
        rwa [readRest_congr skipped] at inside
      · right
        intro around result inside
        have skipped : (final.within around).flags.skip (text ++ [')']) = [] := swallowed
        rw [readRest_of_skip_eq_nil skipped] at inside
        exact (Option.some.inj inside).symm
  | case2 state text next more _ start stuck =>
      rw [readRest_of_step_eq_none] at found
      · cases found
      · rw [start]
        exact List.cons_ne_nil _ _
      · rw [start, stuck]
  | case3 state text next more _ start after rest taken ih =>
      have skipped : state.flags.skip text ≠ [] := by
        rw [start]
        exact List.cons_ne_nil _ _
      rw [← start] at taken
      rw [readRest_of_taken taken] at found
      have left : rest ≠ [] ∨ after.frames = [] := by
        by_cases ended : rest = []
        · rw [ended, readRest_nil] at found
          cases found
          exact .inr closed
        · exact .inl ended
      cases step_extends taken left with
      | kept leaves =>
          have further : ∀ others, step state (state.flags.skip (text ++ ')' :: others)) =
              some (after, rest ++ ')' :: others) := by
            intro others
            rw [Flags.skip_append skipped, leaves]
          rcases ih found with kept | swallowed
          · left
            exact fun around others result inside =>
              kept around others result (readRest_within_of_taken (further others) inside)
          · right
            exact fun around result inside =>
              swallowed around result (readRest_within_of_taken (further []) inside)
      | swallowed ends =>
          rw [readRest_nil] at found
          cases found
          right
          intro around result inside
          have last : step state (state.flags.skip (text ++ [')'])) = some (final, []) := by
            rw [Flags.skip_append skipped, ends]
          have ended := readRest_within_of_taken last inside
          rw [readRest_nil] at ended
          exact (Option.some.inj ended).symm

/-- What a text that is an expression has been read to. -/
theorem exists_readRest_of_read
    {text : Text}
    {expr : Expr}
    (found : read text = some expr) :
    ∃ final, readRest .initial text = some final ∧ final.frames = [] ∧ final.body.expr = expr := by
  obtain ⟨final, run, checked⟩ := Option.bind_eq_some_iff.mp found
  dsimp only at checked
  split at checked
  · rename_i valid
    simp only [Bool.and_eq_true, List.isEmpty_iff] at valid
    exact ⟨final, run, valid.1, Option.some.inj checked⟩
  · cases checked

/-- No expression begins with a repetition mark. -/
theorem ne_question_of_readRest
    {text : Text}
    {final : State}
    (found : readRest .initial text = some final)
    (rest : Text) :
    text ≠ '?' :: rest := by
  rintro rfl
  have left : State.initial.flags.skip ('?' :: rest) ≠ [] := List.cons_ne_nil _ _
  rw [readRest_of_step_eq_none left rfl] at found
  cases found

/-- What stands around an expression in parentheses. -/
def State.surroundings (state : State) : Around where
  offset := state.nextGroup
  names := state.names
  frames := ⟨some state.nextGroup, .initial, state.branches, state.items⟩ :: state.frames

/-- Reads a parenthesis that begins a group. -/
theorem readRest_parenthesis
    {state : State}
    {text : Text}
    (plain : state.flags = .initial)
    (bare : ∀ rest, text ≠ '?' :: rest) :
    readRest state ('(' :: text) = readRest (State.initial.within state.surroundings) text := by
  obtain ⟨flags, nextGroup, names, branches, items, frames⟩ := state
  subst plain
  apply readRest_of_step rfl
  have opened : openNoted ⟨.initial, nextGroup, names, branches, items, frames⟩ =
      State.initial.within
        (State.surroundings ⟨.initial, nextGroup, names, branches, items, frames⟩) := by
    simp [openNoted, State.openGroup, State.within, State.initial, State.surroundings,
      Nat.add_comm]
  rw [step, readGroup_eq, Flags.skip_initial, groupFrom_of_bare bare, opened]

/-- The state behind a group that holds an expression which has been read to a state. -/
def State.enclose (state final : State) : State :=
  { state with
    nextGroup := final.nextGroup + state.nextGroup
    names := final.names ++ state.names
    items := .piece ⟨.group state.nextGroup (final.body.expr.shift state.nextGroup),
      final.body.depth + 1⟩ :: state.items }

/-- Reads the parenthesis that ends a group. -/
theorem readRest_within_surroundings
    {state final : State}
    (plain : state.flags = .initial)
    (closed : final.frames = [])
    (others : Text) :
    readRest (final.within state.surroundings) (')' :: others) =
      readRest (state.enclose final) others := by
  have body := final.body_within state.surroundings
  apply readRest_of_taken
  have ended : (final.within state.surroundings).closeGroup? = some (state.enclose final) := by
    obtain ⟨flags, nextGroup, names, branches, items, frames⟩ := state
    subst plain
    simp only [State.closeGroup?, body]
    simp [State.within, closed, State.surroundings, State.enclose, Piece.shift]
  rw [State.flags_within, skip_parenthesis, step, ended, Option.map_some]

/--
An expression that is valid alone and in parentheses is read in parentheses, wherever these stand,
as one group.
-/
theorem readRest_enclosed
    {text : Text}
    {expr : Expr}
    (alone : read text = some expr)
    (enclosed : (read ('(' :: text ++ [')'])).isSome = true) :
    ∃ final, readRest .initial text = some final ∧ final.body.expr = expr ∧
      ∀ state others result, state.flags = .initial →
        readRest state ('(' :: text ++ ')' :: others) = some result →
          readRest (state.enclose final) others = some result := by
  obtain ⟨final, run, closed, body⟩ := exists_readRest_of_read alone
  have bare : ∀ others rest, text ++ ')' :: others ≠ '?' :: rest :=
    fun others => Text.append_ne_cons (ne_question_of_readRest run) (by decide) others
  refine ⟨final, run, body, fun state others result plain inside => ?_⟩
  rw [List.cons_append, readRest_parenthesis plain (bare others)] at inside
  rcases readRest_within run closed with kept | swallowed
  · rw [← readRest_within_surroundings plain closed]
    exact kept _ _ _ inside
  · -- Where a comment swallows the parenthesis the group has not ended.
    obtain ⟨whole, valid⟩ := Option.isSome_iff_exists.mp enclosed
    obtain ⟨last, further, ended, _⟩ := exists_readRest_of_read valid
    rw [List.cons_append, readRest_parenthesis rfl (bare [])] at further
    have open' := swallowed _ _ further
    rw [open', State.within, State.surroundings] at ended
    simp at ended

end Reader
end Regex
end ResourceRouting
