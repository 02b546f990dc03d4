import ResourceRouting.Text

/-!
# Scalar values

Numbers, truth values and characters as they are written in a path.
-/

namespace ResourceRouting
namespace Text

/-- A text without the sign that it may begin with, and whether that sign is a minus. -/
def splitSign : Text → Bool × Text
  | '-' :: rest => (true, rest)
  | '+' :: rest => (false, rest)
  | text => (false, text)

/-- The number that decimal digits denote; nothing else may occur. -/
def digits? (text : Text) : Option Nat :=
  if !text.isEmpty && text.all Char.isDigit then some (ofDecimal text) else none

/-- A natural number up to a limit; a plus sign may precede it. -/
def natural? (limit : Nat) (text : Text) : Option Nat :=
  match text with
  | '-' :: _ => none
  | _ => (digits? (splitSign text).2).filter (· ≤ limit)

/-- An integer from `low` to `high`; a sign may precede it. -/
def integer? (low high : Int) (text : Text) : Option Int :=
  let (negative, digits) := splitSign text
  ((digits? digits).map fun value => if negative then -(value : Int) else value).filter
    fun value => low ≤ value && value ≤ high

/-- A truth value. -/
def truth? (text : Text) : Option Bool :=
  if text = "true".toList then some true
  else if text = "false".toList then some false
  else none

/-- A single character. -/
def character? : Text → Option Char
  | [character] => some character
  | _ => none

end Text
end ResourceRouting
