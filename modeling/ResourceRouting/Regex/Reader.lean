import ResourceRouting.Regex.Bracket

/-!
# Reading expressions

An expression is read from left to right by a machine that keeps the groups begun and not yet
ended.  Each step reads one character, class, group head or repetition mark, so the text gets
shorter and the reader ends.
-/

namespace ResourceRouting
namespace Regex
namespace Reader

/-- An expression that has been read, with the depth to which its text nests. -/
structure Piece where
  /-- The expression. -/
  expr : Expr
  /-- How deeply the text nests. -/
  depth : Nat
  deriving Repr

/-- What stands side by side in a sequence. -/
inductive Item
  /-- An expression. -/
  | piece (read : Piece)
  /-- A switch of flags, which cannot be repeated. -/
  | switch
  deriving Repr

namespace Item

/-- The expression of an item. -/
def toPiece : Item → Piece
  | piece read => read
  | switch => ⟨.empty, 0⟩

end Item

/-- The sequence of some items. -/
def sequence (items : List Item) : Piece :=
  match items.map Item.toPiece with
  | [] => ⟨.empty, 0⟩
  | [only] => only
  | pieces => ⟨.concat (pieces.map Piece.expr), (pieces.map Piece.depth).foldl max 0 + 1⟩

/-- A group that has been begun, with what stands before it. -/
structure Frame where
  /-- The number of the group, when its text is to be noted. -/
  index : Option Nat
  /-- The flags around the group. -/
  flags : Flags
  /-- The alternatives ended before it, the latest first. -/
  branches : List Piece
  /-- The items before it, the latest first. -/
  items : List Item
  deriving Repr

/-- The state of the reader. -/
structure State where
  /-- The flags that are on. -/
  flags : Flags
  /-- The number that the next group gets. -/
  nextGroup : Nat
  /-- The names of groups so far. -/
  names : List Text
  /-- The alternatives ended in the innermost group, the latest first. -/
  branches : List Piece
  /-- The items of the alternative being read, the latest first. -/
  items : List Item
  /-- The groups begun, the innermost first. -/
  frames : List Frame
  deriving Repr

namespace State

/-- Before anything has been read. -/
def initial : State := ⟨.initial, 1, [], [], [], []⟩

/-- One more expression in the sequence. -/
def push (state : State) (expr : Expr) (depth : Nat) : State :=
  { state with items := .piece ⟨expr, depth⟩ :: state.items }

/-- The expression of the innermost group. -/
def body (state : State) : Piece :=
  let last := sequence state.items.reverse
  match state.branches with
  | [] => last
  | branches =>
      let pieces := (last :: branches).reverse
      ⟨.oneOf (pieces.map Piece.expr), (pieces.map Piece.depth).foldl max 0 + 1⟩

/-- Begins a group. -/
def openGroup (state : State) (index : Option Nat) (flags : Flags) : State :=
  { state with
    flags := flags
    branches := []
    items := []
    frames := ⟨index, state.flags, state.branches, state.items⟩ :: state.frames }

/-- Ends the innermost group. -/
def closeGroup? (state : State) : Option State :=
  match state.frames with
  | [] => none
  | frame :: frames =>
      let inner := state.body
      let expr :=
        match frame.index with
        | none => inner.expr
        | some index => .group index inner.expr
      some
        { state with
          flags := frame.flags
          branches := frame.branches
          items := .piece ⟨expr, inner.depth + 1⟩ :: frame.items
          frames := frames }

/-- Ends an alternative. -/
def endBranch (state : State) : State :=
  { state with branches := sequence state.items.reverse :: state.branches, items := [] }

/-- Repeats the expression read last. -/
def repeatLast? (state : State) (least : Nat) (most : Option Nat) (lazy : Bool) : Option State :=
  match state.items with
  | .piece piece :: items =>
      let greedy := lazy == state.flags.has .swapGreed
      some
        { state with
          items := .piece ⟨.times least most greedy piece.expr, piece.depth + 1⟩ :: items }
  | _ => none

end State

/-- Reads a question mark, which makes a repetition lazy. -/
def readLazy : Text → Bool × Text
  | '?' :: rest => (true, rest)
  | text => (false, text)

/-- Reading a question mark adds no characters. -/
theorem length_readLazy (text : Text) : (readLazy text).2.length ≤ text.length := by
  unfold readLazy
  split
  · exact Nat.le_succ _
  · exact Nat.le_refl _

/-- Reads the decimal digits that a text begins with. -/
def readDecimals (flags : Flags) : Text → Text × Text
  | [] => ([], [])
  | digit :: rest =>
      if digit.isDigit then
        let (more, after) := readDecimals flags (flags.skip rest)
        (digit :: more, after)
      else
        ([], digit :: rest)
termination_by text => text.length
decreasing_by exact Nat.lt_succ_of_le (flags.length_skip rest)

/-- Reading digits adds no characters. -/
theorem length_readDecimals (flags : Flags) (text : Text) :
    (readDecimals flags text).2.length ≤ text.length := by
  fun_induction readDecimals flags text with
  | case1 => exact Nat.le_refl _
  | case2 digit rest _ more after parted ih =>
      rw [parted] at ih
      have shorter : after.length ≤ _ := ih
      exact Nat.le_succ_of_le (Nat.le_trans shorter (flags.length_skip rest))
  | case3 => exact Nat.le_refl _

/-- Reads a number, which may stand between white space. -/
def readNumber (flags : Flags) (text : Text) : Option (Nat × Text) :=
  let (found, after) := readDecimals flags (text.dropWhile Unicode.isBlank)
  let number := Text.ofDecimal found
  if found.isEmpty || 4294967295 < number then
    none
  else
    some (number, after.dropWhile Unicode.isBlank)

/-- Reading a number adds no characters. -/
theorem length_readNumber {flags : Flags} {text after : Text} {number : Nat}
    (found : readNumber flags text = some (number, after)) :
    after.length ≤ text.length := by
  have blanks := (List.dropWhile_suffix (l := text) Unicode.isBlank).length_le
  have digits := length_readDecimals flags (text.dropWhile Unicode.isBlank)
  dsimp only [readNumber] at found
  split at found
  · cases found
  · cases found
    exact Nat.le_trans (List.dropWhile_suffix _).length_le (Nat.le_trans digits blanks)

/-- Reads the upper bound of a repetition, if there is one; otherwise the lower one is exact. -/
def readMost (flags : Flags) (least : Nat) : Text → Option ((Nat × Option Nat) × Text)
  | ',' :: rest =>
      match flags.skip rest with
      | '}' :: more => some ((least, none), '}' :: more)
      | start => do
          let (most, afterMost) ← readNumber flags start
          some ((least, some most), afterMost)
  | text => some ((least, some least), text)

/-- Reading an upper bound adds no characters. -/
theorem length_readMost {flags : Flags} {least : Nat} {text after : Text}
    {bounds : Nat × Option Nat} (found : readMost flags least text = some (bounds, after)) :
    after.length ≤ text.length := by
  unfold readMost at found
  split at found
  · rename_i rest
    have skipped := flags.length_skip rest
    split at found
    · rename_i more start
      cases found
      rw [start] at skipped
      exact Nat.le_succ_of_le skipped
    · obtain ⟨⟨most, afterMost⟩, number, equal⟩ := Option.bind_eq_some_iff.mp found
      cases equal
      exact Nat.le_succ_of_le (Nat.le_trans (length_readNumber number) skipped)
  · cases found
    exact Nat.le_refl _

/-- Reads the bounds of a repetition after the opening brace. -/
def readBounds (flags : Flags) (text : Text) : Option ((Nat × Option Nat) × Text) := do
  let (least, afterLeast) ← readNumber flags (flags.skip text)
  let (bounds, afterBounds) ← readMost flags least afterLeast
  match afterBounds with
  | '}' :: rest =>
      if bounds.2.all (bounds.1 ≤ ·) then some (bounds, flags.skip rest) else none
  | _ => none

/-- Reading bounds adds no characters. -/
theorem length_readBounds {flags : Flags} {text after : Text} {bounds : Nat × Option Nat}
    (found : readBounds flags text = some (bounds, after)) :
    after.length ≤ text.length := by
  have skipped := flags.length_skip text
  obtain ⟨⟨least, afterLeast⟩, first, found⟩ := Option.bind_eq_some_iff.mp found
  have leastBound : afterLeast.length ≤ _ := length_readNumber first
  obtain ⟨⟨both, afterBounds⟩, second, found⟩ := Option.bind_eq_some_iff.mp found
  have mostBound : afterBounds.length ≤ afterLeast.length := length_readMost second
  dsimp only at found
  split at found
  · rename_i rest
    have further := flags.length_skip rest
    simp only [List.length_cons] at mostBound
    split at found
    · cases found
      omega
    · cases found
  · cases found

/-- Whether a character can begin the name of a group. -/
def beginsName (character : Char) : Bool :=
  character = '_' || Unicode.isAlphabetic character

/-- Whether a character can go on in the name of a group. -/
def continuesName (character : Char) : Bool :=
  beginsName character || Unicode.isNumeric character || character = '.' ||
    character = '[' || character = ']'

/-- Reads the name of a group up to its closing angle bracket. -/
def readName (text : Text) : Option (Text × Text) := do
  let (name, rest) ← text.cut '>'
  match name with
  | [] => none
  | first :: others =>
      if beginsName first && others.all continuesName then some (name, rest) else none

/-- Reading the name of a group adds no characters. -/
theorem length_readName {text name after : Text}
    (found : readName text = some (name, after)) :
    after.length ≤ text.length := by
  obtain ⟨⟨before, rest⟩, parted, found⟩ := Option.bind_eq_some_iff.mp found
  have shorter := Text.length_cut parted
  dsimp only at found
  split at found
  · cases found
  · split at found
    · cases found
      exact Nat.le_of_lt shorter
    · cases found

/-- Reads the letters that switch flags, up to the colon or parenthesis after them. -/
def readSwitches (seen : List (Option Flag)) (on : Bool) (flags : Flags) :
    Text → Option (List (Option Flag) × Flags × Bool × Text)
  | [] => none
  | ':' :: rest => if seen.head? = some none then none else some (seen, flags, false, rest)
  | ')' :: rest => if seen.head? = some none then none else some (seen, flags, true, rest)
  | '-' :: rest =>
      if seen.contains none then none else readSwitches (none :: seen) false flags rest
  | letter :: rest =>
      match Flag.ofLetter? letter with
      | none => none
      | some flag =>
          if seen.contains (some flag) then none
          else readSwitches (some flag :: seen) on (flags.switch flag on) rest

/-- Reading switches adds no characters. -/
theorem length_readSwitches {seen final : List (Option Flag)} {on ends : Bool}
    {flags switched : Flags} {text after : Text}
    (found : readSwitches seen on flags text = some (final, switched, ends, after)) :
    after.length ≤ text.length := by
  fun_induction readSwitches seen on flags text with
  | case1 => cases found
  | case2 => cases found
  | case3 =>
      cases found
      exact Nat.le_succ _
  | case4 => cases found
  | case5 =>
      cases found
      exact Nat.le_succ _
  | case6 => cases found
  | case7 _ _ _ _ _ ih => exact Nat.le_succ_of_le (ih found)
  | case8 => cases found
  | case9 => cases found
  | case10 =>
      rename_i ih
      exact Nat.le_succ_of_le (ih found)

/-- Begins a group whose text is noted. -/
def openNoted (state : State) : State :=
  { state.openGroup (some state.nextGroup) state.flags with nextGroup := state.nextGroup + 1 }

/-- Begins a named group. -/
def openNamed (state : State) (text : Text) : Option (State × Text) := do
  let (name, rest) ← readName text
  if state.names.contains name then
    none
  else
    some ({ openNoted state with names := name :: state.names }, rest)

/-- Reading the head of a named group adds no characters. -/
theorem length_openNamed {state opened : State} {text after : Text}
    (found : openNamed state text = some (opened, after)) :
    after.length ≤ text.length := by
  obtain ⟨⟨name, rest⟩, named, found⟩ := Option.bind_eq_some_iff.mp found
  dsimp only at found
  split at found
  · cases found
  · cases found
    exact length_readName named

/-- Reads the head of a group after its parenthesis.  Groups that look around do not exist. -/
def readGroup (state : State) (text : Text) : Option (State × Text) :=
  match state.flags.skip text with
  | '?' :: '=' :: _ => none
  | '?' :: '!' :: _ => none
  | '?' :: '<' :: '=' :: _ => none
  | '?' :: '<' :: '!' :: _ => none
  | '?' :: 'P' :: '<' :: rest => openNamed state rest
  | '?' :: '<' :: rest => openNamed state rest
  | '?' :: rest => do
      let (seen, flags, ends, after) ← readSwitches [] true state.flags rest
      if ends then
        if seen.isEmpty then none
        else some ({ state with flags := flags, items := .switch :: state.items }, after)
      else
        some (state.openGroup none flags, after)
  | rest => some (openNoted state, rest)

/-- Reading the head of a group adds no characters. -/
theorem length_readGroup {state opened : State} {text after : Text}
    (found : readGroup state text = some (opened, after)) :
    after.length ≤ text.length := by
  have skipped := state.flags.length_skip text
  unfold readGroup at found
  split at found
  · cases found
  · cases found
  · cases found
  · cases found
  · rename_i rest start
    simp only [start, List.length_cons] at skipped
    have named := length_openNamed found
    omega
  · rename_i rest _ _ start
    simp only [start, List.length_cons] at skipped
    have named := length_openNamed found
    omega
  · rename_i rest _ _ _ _ _ _ start
    simp only [start, List.length_cons] at skipped
    obtain ⟨⟨seen, flags, ends, behind⟩, switches, found⟩ := Option.bind_eq_some_iff.mp found
    have shorter := length_readSwitches switches
    dsimp only at found
    split at found
    · split at found
      · cases found
      · cases found
        omega
    · cases found
      omega
  · cases found
    exact skipped

/-- Reads the next character, class, group head or repetition mark. -/
def step (state : State) : Text → Option (State × Text)
  | [] => none
  | '(' :: rest => readGroup state rest
  | ')' :: rest => (state.closeGroup?).map fun closed => (closed, rest)
  | '|' :: rest => some (state.endBranch, rest)
  | '[' :: rest => do
      let (part, after) ← Bracket.read state.flags rest
      let expr ← state.flags.classExpr? part.set
      some (state.push expr part.depth, after)
  | '?' :: rest =>
      let (lazy, after) := readLazy rest
      (state.repeatLast? 0 (some 1) lazy).map fun repeated => (repeated, after)
  | '*' :: rest =>
      let (lazy, after) := readLazy rest
      (state.repeatLast? 0 none lazy).map fun repeated => (repeated, after)
  | '+' :: rest =>
      let (lazy, after) := readLazy rest
      (state.repeatLast? 1 none lazy).map fun repeated => (repeated, after)
  | '{' :: rest => do
      let (bounds, afterBounds) ← readBounds state.flags rest
      let (lazy, after) := readLazy afterBounds
      let repeated ← state.repeatLast? bounds.1 bounds.2 lazy
      some (repeated, after)
  | '\\' :: rest => do
      let (escape, after) ← Escape.read state.flags rest
      let expr ← escape.expr? state.flags
      some (state.push expr 0, after)
  | '.' :: rest => (state.flags.dotExpr?).map fun expr => (state.push expr 0, rest)
  | '^' :: rest => some (state.push (.anchor state.flags.startAnchor) 0, rest)
  | '$' :: rest => some (state.push (.anchor state.flags.endAnchor) 0, rest)
  | character :: rest => some (state.push (state.flags.literalExpr character) 0, rest)

/-- Every step reads at least one character. -/
theorem length_step {state after : State} {text rest : Text}
    (found : step state text = some (after, rest)) :
    rest.length < text.length := by
  unfold step at found
  split at found
  case h_1 => cases found
  case h_2 => exact Nat.lt_succ_of_le (length_readGroup found)
  case h_3 =>
    obtain ⟨closed, _, equal⟩ := Option.map_eq_some_iff.mp found
    cases equal
    exact Nat.lt_succ_self _
  case h_4 =>
    cases found
    exact Nat.lt_succ_self _
  case h_5 =>
    obtain ⟨⟨part, behind⟩, bracket, found⟩ := Option.bind_eq_some_iff.mp found
    obtain ⟨expr, _, equal⟩ := Option.bind_eq_some_iff.mp found
    cases equal
    exact Nat.lt_succ_of_le (Bracket.length_read bracket)
  case h_9 =>
    obtain ⟨⟨bounds, behind⟩, bounded, found⟩ := Option.bind_eq_some_iff.mp found
    obtain ⟨repeated, _, equal⟩ := Option.bind_eq_some_iff.mp found
    cases equal
    exact Nat.lt_succ_of_le (Nat.le_trans (length_readLazy _) (length_readBounds bounded))
  case h_10 =>
    obtain ⟨⟨escape, behind⟩, escaped, found⟩ := Option.bind_eq_some_iff.mp found
    obtain ⟨expr, _, equal⟩ := Option.bind_eq_some_iff.mp found
    cases equal
    exact Nat.lt_succ_of_lt (Escape.length_read escaped)
  case h_11 =>
    obtain ⟨expr, _, equal⟩ := Option.map_eq_some_iff.mp found
    cases equal
    exact Nat.lt_succ_self _
  case h_12 =>
    cases found
    exact Nat.lt_succ_self _
  case h_13 =>
    cases found
    exact Nat.lt_succ_self _
  case h_14 =>
    cases found
    exact Nat.lt_succ_self _
  -- The three repetition marks differ in their bounds only.
  all_goals
    obtain ⟨repeated, _, equal⟩ := Option.map_eq_some_iff.mp found
    cases equal
    exact Nat.lt_succ_of_le (length_readLazy _)

/-- Reads the rest of an expression. -/
def readRest (state : State) (text : Text) : Option State :=
  match state.flags.skip text, state.flags.length_skip text with
  | [], _ => some state
  | next :: more, _ =>
      match _taken : step state (next :: more) with
      | none => none
      | some (after, rest) => readRest after rest
termination_by text.length
decreasing_by exact Nat.lt_of_lt_of_le (length_step _taken) ‹_›

/-- Expressions nest at most this deep. -/
def maximalDepth : Nat := 250

/-- Reads an expression, when the text is one and is not too deep. -/
def read (text : Text) : Option Expr := do
  let state ← readRest .initial text
  let piece := state.body
  if state.frames.isEmpty && piece.depth ≤ maximalDepth then some piece.expr else none

end Reader
end Regex
end ResourceRouting
