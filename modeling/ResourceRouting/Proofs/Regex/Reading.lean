import ResourceRouting.Proofs.Regex.Place
import ResourceRouting.Regex

/-!
# Reading expressions step by step

What the reader makes of characters that stand for themselves, escaped or not, and of the groups
that the expression of a template is built from.  The text behind them is arbitrary.
-/

namespace ResourceRouting
namespace Regex

namespace Bracket

/-- A class goes on behind an item, an operation or an inner bracket. -/
theorem readRest_of_more
    {flags : Flags}
    {state next : State}
    {text rest : Text}
    (taken : step flags state (flags.skip text) = some (.more next rest)) :
    readRest flags state text = readRest flags next rest := by
  rw [readRest]
  split
  · rename_i none
    rw [taken] at none
    cases none
  · rename_i done
    rw [taken] at done
    cases done
  · rename_i more
    rw [taken] at more
    cases more
    rfl

/-- A class ends at its last bracket. -/
theorem readRest_of_done
    {flags : Flags}
    {state : State}
    {part : Part}
    {text rest : Text}
    (taken : step flags state (flags.skip text) = some (.done part rest)) :
    readRest flags state text = some (part, rest) := by
  rw [readRest]
  split
  · rename_i none
    rw [taken] at none
    cases none
  · rename_i done
    rw [taken] at done
    cases done
    rfl
  · rename_i more
    rw [taken] at more
    cases more

/-- The class of all characters but a slash. -/
theorem read_notSlash (rest : Text) :
    read .initial ('^' :: '/' :: ']' :: rest) = some (⟨.compl (.single '/'), 1⟩, rest) := by
  have opened : openBracket .initial ('^' :: '/' :: ']' :: rest) =
      some (true, .none, '/' :: ']' :: rest) := by
    simp [openBracket, readNegation, readHyphens, Items.none]
  have item : step .initial ⟨[.bracket true .none], .none⟩ ('/' :: ']' :: rest) =
      some (.more ⟨[.bracket true .none], ⟨.single '/', 1, 0⟩⟩ (']' :: rest)) := rfl
  have ended : step .initial ⟨[.bracket true .none], ⟨.single '/', 1, 0⟩⟩ (']' :: rest) =
      some (.done ⟨.compl (.single '/'), 1⟩ rest) := rfl
  simp only [read, opened, Option.bind_eq_bind, Option.bind_some]
  rw [readRest_of_more item, readRest_of_done ended]

end Bracket

namespace Reader

/-- Where only blanks and comments are left the reader ends. -/
theorem readRest_of_skip_eq_nil
    {state : State}
    {text : Text}
    (ended : state.flags.skip text = []) :
    readRest state text = some state := by
  rw [readRest]
  split
  · rfl
  · rename_i next more _ nonempty _
    rw [ended] at nonempty
    cases nonempty

@[simp]
theorem readRest_nil (state : State) : readRest state [] = some state :=
  readRest_of_skip_eq_nil
    (List.eq_nil_of_length_eq_zero (Nat.le_zero.mp (state.flags.length_skip [])))

/-- The reader goes on behind what a step has read. -/
theorem readRest_of_taken
    {state after : State}
    {text rest : Text}
    (taken : step state (state.flags.skip text) = some (after, rest)) :
    readRest state text = readRest after rest := by
  rw [readRest]
  split
  · rename_i empty _
    rw [empty] at taken
    cases taken
  · rename_i next more _ nonempty _
    split
    · rename_i none
      rw [nonempty, none] at taken
      cases taken
    · rename_i found
      rw [nonempty, found] at taken
      cases taken
      rfl

theorem readRest_of_step
    {state after : State}
    {text rest : Text}
    (plain : state.flags = .initial)
    (taken : step state text = some (after, rest)) :
    readRest state text = readRest after rest :=
  readRest_of_taken (by rwa [plain, Flags.skip_initial])

/-- A character without a meaning of its own stands for itself. -/
theorem step_of_not_isMeta
    {state : State}
    {character : Char}
    {rest : Text}
    (plain : state.flags = .initial)
    (ordinary : Escape.isMeta character = false) :
    step state (character :: rest) = some (state.push (.char character) 0, rest) := by
  unfold step
  split
  case h_14 =>
    rename_i equal
    cases equal
    simp [plain, Flags.literalExpr, Flags.has, Flags.initial]
  all_goals
    rename_i equal
    cases equal
    first | done | simp [Escape.isMeta] at ordinary

/-- A character with a meaning of its own stands for itself behind a backslash. -/
theorem step_of_isMeta
    {state : State}
    {character : Char}
    {rest : Text}
    (plain : state.flags = .initial)
    (special : Escape.isMeta character = true) :
    step state ('\\' :: character :: rest) = some (state.push (.char character) 0, rest) := by
  obtain ⟨flags, nextGroup, names, branches, items, frames⟩ := state
  subst plain
  simp [Escape.isMeta] at special
  obtain rfl | rfl | rfl | rfl | rfl | rfl | rfl | rfl | rfl | rfl | rfl | rfl | rfl | rfl | rfl |
    rfl | rfl | rfl := special <;> rfl

/-- Any text of one segment, noted under a number. -/
def segmentExpr (index : Nat) : Expr :=
  .group index (.repeated 1 none true (.chars (.compl (.single '/'))))

/-- The rest of a path behind a slash, noted under a number, if there is one. -/
def remainderExpr (index : Nat) : Expr :=
  .repeated 0 (some 1) true
    (.group index
      (.seq (.char '/') (.repeated 0 none true (.chars (.compl (.single '\n'))))))

/-- The state behind one more noted group that stands in the sequence. -/
def State.pushGroup (state : State) (piece : Piece) : State :=
  { state with nextGroup := state.nextGroup + 1, items := .piece piece :: state.items }

/-- Reads the group of a variable. -/
theorem readRest_segment
    {state : State}
    (plain : state.flags = .initial)
    (rest : Text) :
    readRest state ('(' :: '[' :: '^' :: '/' :: ']' :: '+' :: ')' :: rest) =
      readRest (state.pushGroup ⟨segmentExpr state.nextGroup, 3⟩) rest := by
  obtain ⟨flags, nextGroup, names, branches, items, frames⟩ := state
  subst plain
  let opened : State := ⟨.initial, nextGroup + 1, names, [], [],
    ⟨some nextGroup, .initial, branches, items⟩ :: frames⟩
  let set : Expr := .chars (.compl (.single '/'))
  have openStep : step ⟨.initial, nextGroup, names, branches, items, frames⟩
      ('(' :: '[' :: '^' :: '/' :: ']' :: '+' :: ')' :: rest) =
        some (opened, '[' :: '^' :: '/' :: ']' :: '+' :: ')' :: rest) := rfl
  have setStep : step opened ('[' :: '^' :: '/' :: ']' :: '+' :: ')' :: rest) =
      some (opened.push set 1, '+' :: ')' :: rest) := by
    show (Bracket.read .initial ('^' :: '/' :: ']' :: '+' :: ')' :: rest)).bind _ = _
    rw [Bracket.read_notSlash]
    rfl
  have repeatStep : step (opened.push set 1) ('+' :: ')' :: rest) =
      some (opened.push (.repeated 1 none true set) 2, ')' :: rest) := rfl
  have closeStep : step (opened.push (.repeated 1 none true set) 2) (')' :: rest) =
      some (State.pushGroup ⟨.initial, nextGroup, names, branches, items, frames⟩
        ⟨segmentExpr nextGroup, 3⟩, rest) := rfl
  rw [readRest_of_step rfl openStep, readRest_of_step rfl setStep,
    readRest_of_step rfl repeatStep, readRest_of_step rfl closeStep]

/-- Reads the group of the remainder, which ends an expression in parentheses. -/
theorem readRest_remainder
    {state : State}
    (plain : state.flags = .initial)
    (rest : Text) :
    readRest state ('(' :: '/' :: '.' :: '*' :: ')' :: '?' :: ')' :: rest) =
      readRest (state.pushGroup ⟨remainderExpr state.nextGroup, 4⟩) (')' :: rest) := by
  obtain ⟨flags, nextGroup, names, branches, items, frames⟩ := state
  subst plain
  let before : State := ⟨.initial, nextGroup, names, branches, items, frames⟩
  let opened : State := ⟨.initial, nextGroup + 1, names, [], [],
    ⟨some nextGroup, .initial, branches, items⟩ :: frames⟩
  let dot : Expr := .chars (.compl (.single '\n'))
  let inner : Expr := .group nextGroup (.seq (.char '/') (.repeated 0 none true dot))
  have openStep : step before ('(' :: '/' :: '.' :: '*' :: ')' :: '?' :: ')' :: rest) =
      some (opened, '/' :: '.' :: '*' :: ')' :: '?' :: ')' :: rest) := rfl
  have slashStep : step opened ('/' :: '.' :: '*' :: ')' :: '?' :: ')' :: rest) =
      some (opened.push (.char '/') 0, '.' :: '*' :: ')' :: '?' :: ')' :: rest) := rfl
  have dotStep : step (opened.push (.char '/') 0) ('.' :: '*' :: ')' :: '?' :: ')' :: rest) =
      some ((opened.push (.char '/') 0).push dot 0, '*' :: ')' :: '?' :: ')' :: rest) := rfl
  have repeatStep : step ((opened.push (.char '/') 0).push dot 0)
      ('*' :: ')' :: '?' :: ')' :: rest) =
        some ((opened.push (.char '/') 0).push (.repeated 0 none true dot) 1,
          ')' :: '?' :: ')' :: rest) := rfl
  have closeStep : step ((opened.push (.char '/') 0).push (.repeated 0 none true dot) 1)
      (')' :: '?' :: ')' :: rest) = some (before.pushGroup ⟨inner, 3⟩, '?' :: ')' :: rest) := rfl
  have optionalStep : step (before.pushGroup ⟨inner, 3⟩) ('?' :: ')' :: rest) =
      some (before.pushGroup ⟨remainderExpr nextGroup, 4⟩, ')' :: rest) := rfl
  rw [readRest_of_step rfl openStep, readRest_of_step rfl slashStep,
    readRest_of_step rfl dotStep, readRest_of_step rfl repeatStep,
    readRest_of_step rfl closeStep, readRest_of_step rfl optionalStep]

theorem expr_sequence (pieces : List Piece) :
    (sequence (pieces.map .piece)).expr = .concat (pieces.map Piece.expr) := by
  have items : (pieces.map Item.piece).map Item.toPiece = pieces := by
    rw [List.map_map]
    exact List.map_id pieces
  unfold sequence
  rw [items]
  split <;> rfl

/-- A sequence of pieces nests at most one level deeper than the pieces. -/
theorem depth_sequence_le
    {pieces : List Piece}
    {bound : Nat}
    (bounded : ∀ piece ∈ pieces, piece.depth ≤ bound) :
    (sequence (pieces.map .piece)).depth ≤ bound + 1 := by
  have items : (pieces.map Item.piece).map Item.toPiece = pieces := by
    rw [List.map_map]
    exact List.map_id pieces
  have folded : ∀ (start : Nat) (rest : List Piece), start ≤ bound →
      (∀ piece ∈ rest, piece.depth ≤ bound) →
        (rest.map Piece.depth).foldl max start ≤ bound := by
    intro start rest
    induction rest generalizing start with
    | nil => exact fun small _ => small
    | cons piece rest ih =>
        intro small others
        apply ih
        · exact Nat.max_le.mpr ⟨small, others piece (List.mem_cons_self ..)⟩
        · exact fun other present => others other (List.mem_cons_of_mem _ present)
  unfold sequence
  rw [items]
  split
  · exact Nat.zero_le _
  · exact Nat.le_succ_of_le (bounded _ (List.mem_singleton_self _))
  · exact Nat.succ_le_succ (folded 0 _ (Nat.zero_le _) bounded)

/-- The expression of a sequence that has to match all of a text. -/
def wholeExpr (exprs : List Expr) : Expr :=
  .seq (.seq (.anchor .textStart) (.concat exprs)) (.anchor .textEnd)

/-- The anchor that an expression begins with if it has to match all of a text. -/
def startItem : Item := .piece ⟨.anchor .textStart, 0⟩

/-- The state behind the beginning of an anchored expression and some pieces in it. -/
def anchoredState (next : Nat) (names : List Text) (pieces : List Piece) : State :=
  ⟨.initial, next, names, [], (pieces.map .piece).reverse, [⟨none, .initial, [], [startItem]⟩]⟩

/-- The state behind all of an anchored expression. -/
def anchoredFinal (next : Nat) (names : List Text) (pieces : List Piece) : State :=
  let body : Piece := sequence (pieces.map .piece)
  ⟨.initial, next, names, [],
    [.piece ⟨.anchor .textEnd, 0⟩, .piece ⟨body.expr, body.depth + 1⟩, startItem], []⟩

/-- Reads the beginning of an anchored expression. -/
theorem readRest_anchorStart (text : Text) :
    readRest .initial (['^', '(', '?', ':'] ++ text) = readRest (anchoredState 1 [] []) text := by
  have anchorStep : step .initial ('^' :: '(' :: '?' :: ':' :: text) =
      some (State.initial.push (.anchor .textStart) 0, '(' :: '?' :: ':' :: text) := rfl
  have openStep : step (State.initial.push (.anchor .textStart) 0) ('(' :: '?' :: ':' :: text) =
      some (anchoredState 1 [] [], text) := rfl
  exact (readRest_of_step rfl anchorStep).trans (readRest_of_step rfl openStep)

/-- Reads the end of an anchored expression. -/
theorem readRest_anchorEnd (next : Nat) (names : List Text) (pieces : List Piece) :
    readRest (anchoredState next names pieces) [')', '$'] =
      some (anchoredFinal next names pieces) := by
  let body : Piece := sequence (pieces.map .piece)
  let closed : State :=
    ⟨.initial, next, names, [], [.piece ⟨body.expr, body.depth + 1⟩, startItem], []⟩
  have filledBody : (anchoredState next names pieces).body = body := by
    simp only [State.body, anchoredState, body, List.reverse_reverse]
  have closeStep : step (anchoredState next names pieces) [')', '$'] = some (closed, ['$']) := by
    have closing : (anchoredState next names pieces).closeGroup? = some closed := by
      simp only [State.closeGroup?, filledBody]
      rfl
    have stepped : step (anchoredState next names pieces) [')', '$'] =
        (anchoredState next names pieces).closeGroup?.map fun closed => (closed, ['$']) := rfl
    rw [stepped, closing]
    rfl
  have endStep : step closed ['$'] = some (anchoredFinal next names pieces, []) := rfl
  rw [readRest_of_step rfl closeStep, readRest_of_step rfl endStep, readRest_nil]

theorem body_anchoredFinal (next : Nat) (names : List Text) (pieces : List Piece) :
    (anchoredFinal next names pieces).body =
      ⟨wholeExpr (pieces.map Piece.expr),
        max (max 0 ((sequence (pieces.map .piece)).depth + 1)) 0 + 1⟩ := by
  rw [wholeExpr, ← expr_sequence]
  rfl

/--
Reads an expression that is anchored at both ends, given what is read between the anchors.  The
pieces in between are neither deep nor followed by a mark of repetition.
-/
theorem read_anchored
    {text : Text}
    {pieces : List Piece}
    {next : Nat}
    (bounded : ∀ piece ∈ pieces, piece.depth ≤ 4)
    (inner : ∀ state : State, state.flags = .initial → state.nextGroup = 1 → state.items = [] →
      readRest state (text ++ [')', '$']) =
        readRest { state with nextGroup := next, items := (pieces.map .piece).reverse }
          [')', '$']) :
    read (['^', '(', '?', ':'] ++ text ++ [')', '$']) =
      some (wholeExpr (pieces.map Piece.expr)) := by
  have readAll : readRest .initial (['^', '(', '?', ':'] ++ text ++ [')', '$']) =
      some (anchoredFinal next [] pieces) := by
    rw [List.append_assoc, readRest_anchorStart, inner _ rfl rfl rfl]
    exact readRest_anchorEnd next [] pieces
  have shallow : (sequence (pieces.map .piece)).depth + 1 + 1 ≤ maximalDepth := by
    have bodyDepth := depth_sequence_le bounded
    simp only [maximalDepth]
    omega
  simp only [read, readAll, body_anchoredFinal, Option.bind_eq_bind, Option.bind_some]
  simp [shallow, anchoredFinal]

/-- An anchored expression is what has been read between its anchors. -/
theorem eq_wholeExpr_of_read_anchored
    {text : Text}
    {expr : Expr}
    {next : Nat}
    {names : List Text}
    {pieces : List Piece}
    (found : read (['^', '(', '?', ':'] ++ text ++ [')', '$']) = some expr)
    (inner : ∀ result, readRest (anchoredState 1 [] []) (text ++ [')', '$']) = some result →
      readRest (anchoredState next names pieces) [')', '$'] = some result) :
    expr = wholeExpr (pieces.map Piece.expr) := by
  obtain ⟨final, run, checked⟩ := Option.bind_eq_some_iff.mp found
  rw [List.append_assoc, readRest_anchorStart] at run
  have ended := inner final run
  rw [readRest_anchorEnd] at ended
  obtain rfl := Option.some.inj ended
  dsimp only at checked
  split at checked
  · rw [body_anchoredFinal] at checked
    exact (Option.some.inj checked).symm
  · cases checked

end Reader
end Regex
end ResourceRouting
