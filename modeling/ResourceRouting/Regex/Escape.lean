import ResourceRouting.Regex.Flags

/-!
# Escapes

What follows a backslash: a character that stands for itself, a control character, a code point
in hexadecimal digits, a class, or an anchor.  Back references do not exist.
-/

namespace ResourceRouting
namespace Regex

/-- What an escape denotes. -/
inductive Escape
  /-- A character; `byte` marks one that was written as two hexadecimal digits. -/
  | literal (character : Char) (byte : Bool)
  /-- A class. -/
  | set (set : CharSet)
  /-- An anchor. -/
  | anchor (anchor : Anchor)

namespace Escape

/-- The characters with a meaning of their own in an expression. -/
def isMeta (character : Char) : Bool :=
  "\\.+*?()|[]\x7b\x7d^$#&-~".toList.contains character

/-- A backslash may stand before any ASCII character but letters, digits and angle brackets. -/
def isEscapable (character : Char) : Bool :=
  character.toNat < 128 && !character.isAlphanum && character ≠ '<' && character ≠ '>'

/-- The character of a code point, when it is one. -/
def charOfCode? (code : Nat) : Option Char :=
  if code < 0xd800 || (0xe000 ≤ code && code < 0x110000) then some (Char.ofNat code) else none

/-- Reads exactly `count` hexadecimal digits. -/
def readDigits (flags : Flags) : Nat → Text → Option (Text × Text)
  | 0, text => some ([], text)
  | _ + 1, [] => none
  | count + 1, digit :: rest =>
      if Text.isHexDigit digit then
        (readDigits flags count (flags.skip rest)).map fun (digits, after) => (digit :: digits, after)
      else
        none

/-- Reading digits adds no characters. -/
theorem length_readDigits {flags : Flags} {count : Nat} {text digits after : Text}
    (found : readDigits flags count text = some (digits, after)) :
    after.length ≤ text.length := by
  induction count generalizing text digits with
  | zero =>
      cases found
      exact Nat.le_refl _
  | succ count ih =>
      cases text with
      | nil => cases found
      | cons digit rest =>
          simp only [readDigits] at found
          split at found
          · obtain ⟨⟨more, behind⟩, inner, equal⟩ := Option.map_eq_some_iff.mp found
            cases equal
            have skipped := flags.length_skip rest
            have shorter : behind.length ≤ _ := ih inner
            simp only [List.length_cons]
            omega
          · cases found

/-- Reads characters up to a closing brace, which is left out; `fuel` bounds their number. -/
def readBraced (flags : Flags) : Nat → Text → Option (Text × Text)
  | 0, _ => none
  | _ + 1, [] => none
  | fuel + 1, character :: rest =>
      if character = '}' then
        some ([], rest)
      else
        (readBraced flags fuel (flags.skip rest)).map fun (inner, after) =>
          (character :: inner, after)

/-- Reading up to a brace adds no characters. -/
theorem length_readBraced {flags : Flags} {fuel : Nat} {text inner after : Text}
    (found : readBraced flags fuel text = some (inner, after)) :
    after.length ≤ text.length := by
  induction fuel generalizing text inner with
  | zero => cases found
  | succ fuel ih =>
      cases text with
      | nil => cases found
      | cons character rest =>
          simp only [readBraced] at found
          split at found
          · cases found
            exact Nat.le_succ _
          · obtain ⟨⟨more, behind⟩, further, equal⟩ := Option.map_eq_some_iff.mp found
            cases equal
            have skipped := flags.length_skip rest
            have shorter : behind.length ≤ _ := ih further
            simp only [List.length_cons]
            omega

/-- Reads a code point: digits in braces, or exactly `count` digits. -/
def readCode (flags : Flags) (count : Nat) (text : Text) : Option (Escape × Text) := do
  match flags.skip text with
  | '{' :: rest =>
      let inside := flags.skip rest
      let (digits, after) ← readBraced flags (inside.length + 1) inside
      if digits.isEmpty || !digits.all Text.isHexDigit then
        none
      else
        let character ← charOfCode? (Text.ofHex digits)
        some (.literal character false, flags.skip after)
  | start =>
      let (digits, after) ← readDigits flags count start
      let character ← charOfCode? (Text.ofHex digits)
      some (.literal character (count = 2), after)

/-- Reading a code point adds no characters. -/
theorem length_readCode {flags : Flags} {count : Nat} {text after : Text} {escape : Escape}
    (found : readCode flags count text = some (escape, after)) :
    after.length ≤ text.length := by
  have skipped := flags.length_skip text
  unfold readCode at found
  split at found
  · rename_i rest start
    simp only [start, List.length_cons] at skipped
    obtain ⟨⟨digits, behind⟩, inner, found⟩ := Option.bind_eq_some_iff.mp found
    dsimp only at found
    split at found
    · cases found
    · obtain ⟨character, _, equal⟩ := Option.bind_eq_some_iff.mp found
      cases equal
      have inside := flags.length_skip rest
      have braced := length_readBraced inner
      have outside := flags.length_skip behind
      omega
  · obtain ⟨⟨digits, behind⟩, inner, found⟩ := Option.bind_eq_some_iff.mp found
    obtain ⟨character, _, equal⟩ := Option.bind_eq_some_iff.mp found
    cases equal
    exact Nat.le_trans (length_readDigits inner) skipped

/--
The set of a property as it is written in braces: a name, or a name and a value with a colon, an
equals sign or `!=` between them.  The three signs say the same: only the letter before the braces
negates.
-/
def propertySet? (flags : Flags) (negated : Bool) (inner : Text) : Option CharSet :=
  match inner.cut '!' with
  | some (property, '=' :: value) =>
      (CharSet.propertyValue? property value).map (flags.classSet negated)
  | _ =>
      match (inner.cut ':').or (inner.cut '=') with
      | some (property, value) =>
          (CharSet.propertyValue? property value).map (flags.classSet negated)
      | none => (CharSet.property? inner).map (flags.classSet negated)

/-- Reads the name of a property after its letter. -/
def readProperty (flags : Flags) (negated : Bool) (text : Text) : Option (Escape × Text) :=
  if flags.has .unicode then
    match flags.skip text with
    | [] => none
    | '{' :: rest => do
        let inside := flags.skip rest
        let (inner, after) ← readBraced flags (inside.length + 1) inside
        let set ← propertySet? flags negated inner
        some (.set set, after)
    | letter :: rest => do
        let set ← CharSet.property? [letter]
        some (.set (flags.classSet negated set), flags.skip rest)
  else
    none

/-- Reading the name of a property adds no characters. -/
theorem length_readProperty {flags : Flags} {negated : Bool} {text after : Text}
    {escape : Escape} (found : readProperty flags negated text = some (escape, after)) :
    after.length ≤ text.length := by
  have skipped := flags.length_skip text
  unfold readProperty at found
  split at found
  · split at found
    · cases found
    · rename_i rest start
      simp only [start, List.length_cons] at skipped
      obtain ⟨⟨name, behind⟩, inner, found⟩ := Option.bind_eq_some_iff.mp found
      obtain ⟨set, _, equal⟩ := Option.bind_eq_some_iff.mp found
      cases equal
      have inside := flags.length_skip rest
      have braced := length_readBraced inner
      omega
    · rename_i letter rest _ start
      simp only [start, List.length_cons] at skipped
      obtain ⟨set, _, equal⟩ := Option.bind_eq_some_iff.mp found
      cases equal
      have outside := flags.length_skip rest
      omega
  · cases found

/-- The word edge of a name in braces. -/
def wordEdge? (name : Text) : Option WordEdge :=
  match String.ofList name with
  | "start" => some .start
  | "end" => some .finish
  | "start-half" => some .notAfter
  | "end-half" => some .notBefore
  | _ => none

/-- Whether a character can stand in the name of a word edge. -/
def isEdgeLetter (character : Char) : Bool :=
  character.isAlpha || character = '-'

/--
Reads what follows the letter of a word boundary.  A brace that a letter or a hyphen follows
names a kind of edge; any other brace begins the count of a repetition and is left alone.
-/
def readWordEdge (flags : Flags) (text : Text) : Option (WordEdge × Text) :=
  match text with
  | '{' :: rest =>
      match flags.skip rest with
      | [] => none
      | first :: more =>
          if isEdgeLetter first then do
            let (name, after) ← readBraced flags (more.length + 2) (first :: more)
            let edge ← wordEdge? name
            some (edge, after)
          else
            some (.boundary, text)
  | _ => some (.boundary, text)

/-- Reading what follows a word boundary adds no characters. -/
theorem length_readWordEdge {flags : Flags} {text after : Text} {edge : WordEdge}
    (found : readWordEdge flags text = some (edge, after)) :
    after.length ≤ text.length := by
  unfold readWordEdge at found
  split at found
  · rename_i rest
    have skipped := flags.length_skip rest
    split at found
    · cases found
    · rename_i first more start
      simp only [start] at skipped
      split at found
      · obtain ⟨⟨name, behind⟩, inner, found⟩ := Option.bind_eq_some_iff.mp found
        obtain ⟨kind, _, equal⟩ := Option.bind_eq_some_iff.mp found
        cases equal
        have braced := length_readBraced inner
        exact Nat.le_succ_of_le (Nat.le_trans braced skipped)
      · cases found
        exact Nat.le_refl _
  · cases found
    exact Nat.le_refl _

/-- Reads an escape from the text after its backslash. -/
def read (flags : Flags) : Text → Option (Escape × Text)
  | [] => none
  | 'x' :: rest => readCode flags 2 rest
  | 'u' :: rest => readCode flags 4 rest
  | 'U' :: rest => readCode flags 8 rest
  | 'p' :: rest => readProperty flags false rest
  | 'P' :: rest => readProperty flags true rest
  | 'a' :: rest => some (.literal '\x07' false, rest)
  | 'f' :: rest => some (.literal '\x0c' false, rest)
  | 't' :: rest => some (.literal '\t' false, rest)
  | 'n' :: rest => some (.literal '\n' false, rest)
  | 'r' :: rest => some (.literal '\r' false, rest)
  | 'v' :: rest => some (.literal '\x0b' false, rest)
  | 'A' :: rest => some (.anchor .textStart, rest)
  | 'z' :: rest => some (.anchor .textEnd, rest)
  | 'b' :: rest => do
      let (edge, after) ← readWordEdge flags rest
      some (.anchor (.word edge flags.wordSet), after)
  | 'B' :: rest => some (.anchor (.word .inside flags.wordSet), rest)
  | '<' :: rest => some (.anchor (.word .start flags.wordSet), rest)
  | '>' :: rest => some (.anchor (.word .finish flags.wordSet), rest)
  | character :: rest =>
      match flags.shorthand? character with
      | some members => some (.set members, rest)
      | none =>
          if isMeta character || isEscapable character then
            some (.literal character false, rest)
          else
            none

/-- An escape has at least one character behind its backslash. -/
theorem length_read {flags : Flags} {text after : Text} {escape : Escape}
    (found : read flags text = some (escape, after)) :
    after.length < text.length := by
  unfold read at found
  split at found
  case h_1 => cases found
  case h_2 => exact Nat.lt_succ_of_le (length_readCode found)
  case h_3 => exact Nat.lt_succ_of_le (length_readCode found)
  case h_4 => exact Nat.lt_succ_of_le (length_readCode found)
  case h_5 => exact Nat.lt_succ_of_le (length_readProperty found)
  case h_6 => exact Nat.lt_succ_of_le (length_readProperty found)
  case h_15 =>
    obtain ⟨⟨edge, behind⟩, inner, equal⟩ := Option.bind_eq_some_iff.mp found
    cases equal
    exact Nat.lt_succ_of_le (length_readWordEdge inner)
  case h_19 =>
    split at found
    · cases found
      exact Nat.lt_succ_self _
    · split at found
      · cases found
        exact Nat.lt_succ_self _
      · cases found
  all_goals
    cases found
    exact Nat.lt_succ_self _

/-- The expression of an escape outside brackets. -/
def expr? (flags : Flags) : Escape → Option Expr
  | literal character byte =>
      if byte && !flags.has .unicode && 128 ≤ character.toNat then
        none
      else
        some (flags.literalExpr character)
  | set members => flags.classExpr? members
  | anchor condition => some (.anchor condition)

end Escape
end Regex
end ResourceRouting
