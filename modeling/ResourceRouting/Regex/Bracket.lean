import ResourceRouting.Regex.Escape

/-!
# Bracketed classes

The classes in brackets: single characters, ranges, escapes, ASCII classes in double brackets,
nested classes, and the operations `&&`, `--` and `~~`, which associate to the left.
-/

namespace ResourceRouting
namespace Regex
namespace Bracket

/-- The operations between the items of a class. -/
inductive Operation
  /-- Characters of both sides, `&&`. -/
  | inter
  /-- Characters of the left side alone, `--`. -/
  | diff
  /-- Characters of one side alone, `~~`. -/
  | symmDiff
  deriving DecidableEq, Repr

/-- The set of an operation. -/
def Operation.apply : Operation → CharSet → CharSet → CharSet
  | .inter, left, right => .inter left right
  | .diff, left, right => .diff left right
  | .symmDiff, left, right => .symmDiff left right

/-- A set that has been read, with the depth to which classes nest in its text. -/
structure Part where
  /-- The characters. -/
  set : CharSet
  /-- How deeply the text nests. -/
  depth : Nat
  deriving Repr

/-- The items read so far on one side of an operation. -/
structure Items where
  /-- The union of the items. -/
  set : CharSet
  /-- How many items there are. -/
  count : Nat
  /-- The greatest depth of an item. -/
  depth : Nat
  deriving Repr

namespace Items

/-- No item yet. -/
def none : Items := ⟨.empty, 0, 0⟩

/-- One more item. -/
def add (items : Items) (part : Part) : Items :=
  ⟨if items.count = 0 then part.set else .union items.set part.set, items.count + 1,
    max items.depth part.depth⟩

/-- The items as one set. -/
def part (items : Items) : Part :=
  ⟨items.set, if items.count < 2 then items.depth else items.depth + 1⟩

end Items

/-- What has been begun and not yet ended inside a class. -/
inductive Frame
  /-- A bracket, with the items before it in the class around it. -/
  | bracket (negated : Bool) (outer : Items)
  /-- An operation, with its left side. -/
  | operation (operation : Operation) (left : Part)

/-- The state of the reader of a class. -/
structure State where
  /-- What has been begun, the innermost first. -/
  frames : List Frame
  /-- The items of the innermost side. -/
  items : Items

/-- Reads hyphens that a class begins with, which stand for themselves. -/
def readHyphens (flags : Flags) (items : Items) : Text → Items × Text
  | '-' :: rest => readHyphens flags (items.add ⟨.single '-', 0⟩) (flags.skip rest)
  | text => (items, text)
termination_by text => text.length
decreasing_by exact Nat.lt_succ_of_le (flags.length_skip rest)

/-- Reading hyphens adds no characters. -/
theorem length_readHyphens (flags : Flags) (items : Items) (text : Text) :
    (readHyphens flags items text).2.length ≤ text.length := by
  fun_induction readHyphens flags items text with
  | case1 items rest ih =>
      exact Nat.le_succ_of_le (Nat.le_trans ih (flags.length_skip rest))
  | case2 => exact Nat.le_refl _

/-- Reads the circumflex that a class is negated with. -/
def readNegation (flags : Flags) : Text → Bool × Text
  | '^' :: rest => (true, flags.skip rest)
  | text => (false, text)

/-- Reading a circumflex adds no characters. -/
theorem length_readNegation (flags : Flags) (text : Text) :
    (readNegation flags text).2.length ≤ text.length := by
  unfold readNegation
  split
  · exact Nat.le_succ_of_le (flags.length_skip _)
  · exact Nat.le_refl _

/-- Reads the beginning of a class after its bracket: a circumflex, hyphens, or one bracket. -/
def openBracket (flags : Flags) (text : Text) : Option (Bool × Items × Text) :=
  let (negated, body) := readNegation flags (flags.skip text)
  let (items, after) := readHyphens flags .none body
  match items.count, after with
  | _, [] => none
  | 0, ']' :: rest =>
      match flags.skip rest with
      | [] => none
      | next => some (negated, items.add ⟨.single ']', 0⟩, next)
  | _, _ => some (negated, items, after)

/-- Reading the beginning of a class adds no characters. -/
theorem length_openBracket {flags : Flags} {text after : Text} {negated : Bool} {items : Items}
    (found : openBracket flags text = some (negated, items, after)) :
    after.length ≤ text.length := by
  have skipped := flags.length_skip text
  have negation := length_readNegation flags (flags.skip text)
  have hyphens := length_readHyphens flags .none (readNegation flags (flags.skip text)).2
  dsimp only [openBracket] at found
  split at found
  · cases found
  · rename_i rest _ hyphenated
    simp only [hyphenated, List.length_cons] at hyphens
    have further := flags.length_skip rest
    split at found
    · cases found
    · cases found
      omega
  · cases found
    omega

/-- Reads an ASCII class, `[:name:]` or `[:^name:]`, from the text after its first bracket. -/
def readAsciiClass (flags : Flags) (text : Text) : Option (CharSet × Text) :=
  match text with
  | ':' :: rest =>
      let (negated, body) :=
        match rest with
        | '^' :: more => (true, more)
        | _ => (false, rest)
      match Text.cut ':' body with
      | some (name, ']' :: after) =>
          (CharSet.asciiClass? (String.ofList name)).map fun set =>
            (flags.classSet negated set, after)
      | _ => none
  | _ => none

/-- Reading an ASCII class adds no characters. -/
theorem length_readAsciiClass {flags : Flags} {text after : Text} {set : CharSet}
    (found : readAsciiClass flags text = some (set, after)) :
    after.length ≤ text.length := by
  unfold readAsciiClass at found
  split at found
  · rename_i rest
    split at found
    rename_i negated body choice
    have bounded : body.length ≤ rest.length := by
      split at choice <;> cases choice
      · exact Nat.le_succ _
      · exact Nat.le_refl _
    split at found
    · rename_i name behind parted
      obtain ⟨members, _, equal⟩ := Option.map_eq_some_iff.mp found
      cases equal
      have shorter := Text.length_cut parted
      simp only [List.length_cons] at shorter ⊢
      omega
    · cases found
  · cases found

/-- Reads one end of a range, or an item of one character or escape. -/
def readItem (flags : Flags) : Text → Option (Escape × Text)
  | [] => none
  | '\\' :: rest => Escape.read flags rest
  | character :: rest => some (.literal character false, rest)

/-- An item has at least one character. -/
theorem length_readItem {flags : Flags} {text after : Text} {item : Escape}
    (found : readItem flags text = some (item, after)) :
    after.length < text.length := by
  unfold readItem at found
  split at found
  · cases found
  · exact Nat.lt_succ_of_lt (Escape.length_read found)
  · cases found
    exact Nat.lt_succ_self _

/-- A character can stand in a class over bytes only if it is an ASCII one. -/
def admits (flags : Flags) (character : Char) : Bool :=
  flags.has .unicode || character.toNat < 128

/-- The set of an item that is no range. -/
def itemSet? (flags : Flags) : Escape → Option CharSet
  | .literal character _ => if admits flags character then some (.single character) else none
  | .set set => flags.admitSet? set
  | .anchor _ => none

/-- Reads a range or a single item. -/
def readRange (flags : Flags) (text : Text) : Option (CharSet × Text) := do
  let (first, rest) ← readItem flags text
  let single := fun (after : Text) => (itemSet? flags first).map fun set => (set, after)
  match flags.skip rest with
  | [] => none
  | '-' :: more =>
      match flags.skip more with
      | [] => none
      | ']' :: _ => single ('-' :: more)
      | '-' :: _ => single ('-' :: more)
      | start => do
          let (second, after) ← readItem flags start
          match first, second with
          | .literal low _, .literal high _ =>
              if low ≤ high && admits flags low && admits flags high then
                some (.range low high, after)
              else
                none
          | _, _ => none
  | after => single after

/-- A range or an item has at least one character. -/
theorem length_readRange {flags : Flags} {text after : Text} {set : CharSet}
    (found : readRange flags text = some (set, after)) :
    after.length < text.length := by
  obtain ⟨⟨first, rest⟩, item, found⟩ := Option.bind_eq_some_iff.mp found
  have shorter := length_readItem item
  have skipped := flags.length_skip rest
  dsimp only at found
  split at found
  · cases found
  · rename_i more start
    have further := flags.length_skip more
    simp only [start, List.length_cons] at skipped
    split at found
    · cases found
    · obtain ⟨members, _, equal⟩ := Option.map_eq_some_iff.mp found
      cases equal
      simp only [List.length_cons]
      omega
    · obtain ⟨members, _, equal⟩ := Option.map_eq_some_iff.mp found
      cases equal
      simp only [List.length_cons]
      omega
    · obtain ⟨⟨second, behind⟩, other, found⟩ := Option.bind_eq_some_iff.mp found
      have last : behind.length < _ := length_readItem other
      dsimp only at found
      split at found
      · split at found
        · cases found
          omega
        · cases found
      · cases found
  · obtain ⟨members, _, equal⟩ := Option.map_eq_some_iff.mp found
    cases equal
    omega

/-- Ends the innermost side: the set of the operation that it belongs to, if there is one. -/
def endSide (flags : Flags) (state : State) : Part × List Frame :=
  match state.frames with
  | .operation operation left :: frames =>
      let right := state.items.part
      (⟨operation.apply (flags.foldSet left.set) (flags.foldSet right.set),
        max left.depth right.depth + 1⟩, frames)
  | frames => (state.items.part, frames)

/-- Begins an operation. -/
def beginOperation (flags : Flags) (operation : Operation) (state : State) : State :=
  let (left, frames) := endSide flags state
  ⟨.operation operation left :: frames, .none⟩

/-- What a step of the reader leads to. -/
inductive Outcome
  /-- The class goes on. -/
  | more (state : State) (rest : Text)
  /-- The class has ended. -/
  | done (part : Part) (rest : Text)

namespace Outcome

/-- The text behind a step. -/
def rest : Outcome → Text
  | more _ rest => rest
  | done _ rest => rest

end Outcome

/-- Ends the innermost bracket. -/
def closeBracket (flags : Flags) (state : State) (rest : Text) : Option Outcome :=
  let (inner, frames) := endSide flags state
  match frames with
  | .bracket negated outer :: frames =>
      (flags.admitSet? (flags.classSet negated inner.set)).map fun set =>
        let part : Part := ⟨set, inner.depth + 1⟩
        match frames with
        | [] => .done part rest
        | _ => .more ⟨frames, outer.add part⟩ rest
  | _ => none

/-- Ending a bracket leaves the text behind it. -/
theorem rest_closeBracket {flags : Flags} {state : State} {rest : Text} {outcome : Outcome}
    (found : closeBracket flags state rest = some outcome) :
    outcome.rest = rest := by
  unfold closeBracket at found
  split at found
  split at found
  · obtain ⟨set, _, equal⟩ := Option.map_eq_some_iff.mp found
    rw [← equal]
    dsimp only
    split <;> rfl
  · cases found

/-- Reads the next item, operation or bracket. -/
def step (flags : Flags) (state : State) : Text → Option Outcome
  | [] => none
  | '[' :: rest =>
      match readAsciiClass flags rest with
      | some (set, after) =>
          (flags.admitSet? set).map fun admitted =>
            .more { state with items := state.items.add ⟨admitted, 0⟩ } after
      | none =>
          (openBracket flags rest).map fun (negated, items, after) =>
            .more ⟨.bracket negated state.items :: state.frames, items⟩ after
  | ']' :: rest => closeBracket flags state rest
  | '&' :: '&' :: rest => some (.more (beginOperation flags .inter state) rest)
  | '-' :: '-' :: rest => some (.more (beginOperation flags .diff state) rest)
  | '~' :: '~' :: rest => some (.more (beginOperation flags .symmDiff state) rest)
  | text =>
      (readRange flags text).map fun (set, after) =>
        .more { state with items := state.items.add ⟨set, 0⟩ } after

/-- Every step reads at least one character. -/
theorem length_step {flags : Flags} {state : State} {text : Text} {outcome : Outcome}
    (found : step flags state text = some outcome) :
    outcome.rest.length < text.length := by
  unfold step at found
  split at found
  · cases found
  · rename_i rest
    split at found
    · rename_i named
      obtain ⟨set, _, equal⟩ := Option.map_eq_some_iff.mp found
      cases equal
      exact Nat.lt_succ_of_le (length_readAsciiClass named)
    · obtain ⟨⟨negated, items, after⟩, opened, equal⟩ := Option.map_eq_some_iff.mp found
      cases equal
      exact Nat.lt_succ_of_le (length_openBracket opened)
  · rw [rest_closeBracket found]
    exact Nat.lt_succ_self _
  · cases found
    exact Nat.lt_succ_of_lt (Nat.lt_succ_self _)
  · cases found
    exact Nat.lt_succ_of_lt (Nat.lt_succ_self _)
  · cases found
    exact Nat.lt_succ_of_lt (Nat.lt_succ_self _)
  · obtain ⟨⟨set, after⟩, range, equal⟩ := Option.map_eq_some_iff.mp found
    cases equal
    exact length_readRange range

/-- Reads the rest of a class. -/
def readRest (flags : Flags) (state : State) (text : Text) : Option (Part × Text) :=
  match _taken : step flags state (flags.skip text) with
  | none => none
  | some (.done part rest) => some (part, rest)
  | some (.more next rest) => readRest flags next rest
termination_by text.length
decreasing_by exact Nat.lt_of_lt_of_le (length_step _taken) (flags.length_skip text)

/-- The rest of a class has at least one character, its last bracket. -/
theorem length_readRest {flags : Flags} {state : State} {text after : Text} {part : Part}
    (found : readRest flags state text = some (part, after)) :
    after.length < text.length := by
  fun_induction readRest flags state text with
  | case1 => cases found
  | case2 state text part rest taken =>
      cases found
      exact Nat.lt_of_lt_of_le (length_step taken) (flags.length_skip text)
  | case3 state text next rest taken ih =>
      have shorter : rest.length < _ := length_step taken
      exact Nat.lt_trans (ih found) (Nat.lt_of_lt_of_le shorter (flags.length_skip text))

/-- Reads a class from the text after its bracket. -/
def read (flags : Flags) (text : Text) : Option (Part × Text) := do
  let (negated, items, after) ← openBracket flags text
  readRest flags ⟨[.bracket negated .none], items⟩ after

/-- Reading a class adds no characters. -/
theorem length_read {flags : Flags} {text after : Text} {part : Part}
    (found : read flags text = some (part, after)) :
    after.length ≤ text.length := by
  obtain ⟨⟨negated, items, behind⟩, opened, found⟩ := Option.bind_eq_some_iff.mp found
  exact Nat.le_of_lt (Nat.lt_of_lt_of_le (length_readRest found) (length_openBracket opened))

end Bracket
end Regex
end ResourceRouting
