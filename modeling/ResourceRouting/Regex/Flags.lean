import ResourceRouting.Regex.Expr
import ResourceRouting.Regex.Named
import ResourceRouting.Text

/-!
# Flags

The settings under which the text of an expression is read, and what the classes, anchors and
letters of the text mean under them.
-/

namespace ResourceRouting
namespace Regex

/-- One of the settings that a group can switch. -/
inductive Flag
  /-- `i`: letters match without regard to case. -/
  | ignoreCase
  /-- `m`: the line anchors hold at every line. -/
  | multiLine
  /-- `s`: the dot matches line ends too. -/
  | dotAll
  /-- `U`: repetitions are lazy unless marked. -/
  | swapGreed
  /-- `u`: classes range over all of Unicode. -/
  | unicode
  /-- `R`: carriage returns end lines too. -/
  | crlf
  /-- `x`: white space and comments are skipped. -/
  | ignoreBlank
  deriving DecidableEq, Repr

namespace Flag

/-- The flag of a letter. -/
def ofLetter? : Char → Option Flag
  | 'i' => some .ignoreCase
  | 'm' => some .multiLine
  | 's' => some .dotAll
  | 'U' => some .swapGreed
  | 'u' => some .unicode
  | 'R' => some .crlf
  | 'x' => some .ignoreBlank
  | _ => none

end Flag

/-- The flags that are switched on. -/
abbrev Flags := List Flag

namespace Flags

/-- Expressions are read with Unicode classes at first. -/
def initial : Flags := [.unicode]

/-- Whether a flag is on. -/
def has (flags : Flags) (flag : Flag) : Bool :=
  List.contains flags flag

/-- Switches one flag. -/
def switch (flags : Flags) (flag : Flag) (value : Bool) : Flags :=
  if value then flag :: flags else flags.filter (· ≠ flag)

/--
Skips white space and comments; a comment goes from a number sign to the end of its line.
`inComment` says whether the text begins inside a comment.
-/
def skipFrom (inComment : Bool) : Text → Text
  | [] => []
  | character :: rest =>
      if inComment then
        skipFrom (character ≠ '\n') rest
      else if Unicode.isBlank character then
        skipFrom false rest
      else if character = '#' then
        skipFrom true rest
      else
        character :: rest

/-- Skips white space and comments where the flags ask for it. -/
def skip (flags : Flags) (text : Text) : Text :=
  if flags.has .ignoreBlank then skipFrom false text else text

@[simp]
theorem skip_initial (text : Text) : skip initial text = text := rfl

/-- Skipping adds no characters. -/
theorem length_skipFrom (inComment : Bool) (text : Text) :
    (skipFrom inComment text).length ≤ text.length := by
  induction text generalizing inComment with
  | nil => exact Nat.le_refl _
  | cons character rest ih =>
      simp only [skipFrom]
      split
      · exact Nat.le_succ_of_le (ih _)
      · split
        · exact Nat.le_succ_of_le (ih _)
        · split
          · exact Nat.le_succ_of_le (ih _)
          · exact Nat.le_refl _

/-- Skipping adds no characters. -/
theorem length_skip (flags : Flags) (text : Text) : (flags.skip text).length ≤ text.length := by
  unfold skip
  split
  · exact length_skipFrom false text
  · exact Nat.le_refl _

/-- Closes a set under change of case where the flags ask for it. -/
def foldSet (flags : Flags) (set : CharSet) : CharSet :=
  if flags.has .ignoreCase then
    if flags.has .unicode then .anyCase set else .anyAsciiCase set
  else
    set

/-- The meaning of a class: first closed under change of case, then complemented if negated. -/
def classSet (flags : Flags) (negated : Bool) (set : CharSet) : CharSet :=
  if negated then .compl (flags.foldSet set) else flags.foldSet set

/--
The set of a class.  Without Unicode classes a class ranges over bytes, and one that admits bytes
outside ASCII could match a part of a character: there is no such class.
-/
def admitSet? (flags : Flags) (set : CharSet) : Option CharSet :=
  if flags.has .unicode || set.isAscii then some set else none

/-- The expression of a class. -/
def classExpr? (flags : Flags) (set : CharSet) : Option Expr :=
  (flags.admitSet? set).map .chars

/-- The expression of a character that stands for itself. -/
def literalExpr (flags : Flags) (character : Char) : Expr :=
  if flags.has .ignoreCase && (flags.has .unicode || character.isAlpha) then
    .chars (flags.foldSet (.single character))
  else
    .char character

/-- The expression of the dot, which matches any character but a line end. -/
def dotExpr? (flags : Flags) : Option Expr :=
  if flags.has .unicode then
    some (.chars
      (if flags.has .dotAll then .all
      else if flags.has .crlf then .compl (.runs [⟨10, 10⟩, ⟨13, 13⟩])
      else .compl (.single '\n')))
  else
    none

/-- The anchor of the circumflex. -/
def startAnchor (flags : Flags) : Anchor :=
  if flags.has .multiLine then
    if flags.has .crlf then .crlfLineStart else .lineStart
  else
    .textStart

/-- The anchor of the dollar sign. -/
def endAnchor (flags : Flags) : Anchor :=
  if flags.has .multiLine then
    if flags.has .crlf then .crlfLineEnd else .lineEnd
  else
    .textEnd

/-- The characters of words. -/
def wordSet (flags : Flags) : CharSet :=
  if flags.has .unicode then .words else .asciiWords

/-- The set of the letters that stand for digits, spaces and word characters. -/
def shorthand? (flags : Flags) : Char → Option CharSet
  | 'd' => some (if flags.has .unicode then .digits else .asciiDigits)
  | 's' => some (if flags.has .unicode then .spaces else .asciiSpaces)
  | 'w' => some flags.wordSet
  | 'D' => some (.compl (if flags.has .unicode then .digits else .asciiDigits))
  | 'S' => some (.compl (if flags.has .unicode then .spaces else .asciiSpaces))
  | 'W' => some (.compl flags.wordSet)
  | _ => none

end Flags
end Regex
end ResourceRouting
