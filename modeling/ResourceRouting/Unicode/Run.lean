/-!
# Runs of code points

A table of characters is a list of runs of consecutive code points.  Large tables are written as
text, `41-5a 5f 61-7a`, and read once.
-/

namespace ResourceRouting
namespace Unicode

/-- The code points from `first` to `last`, both ends included. -/
structure Run where
  /-- The least code point. -/
  first : Nat
  /-- The greatest code point. -/
  last : Nat
  deriving DecidableEq, Repr

namespace Run

/-- Whether the run covers a character. -/
def covers (run : Run) (character : Char) : Bool :=
  run.first ≤ character.toNat && character.toNat ≤ run.last

/-- A character lies in a run exactly when its code point lies between the ends. -/
theorem covers_iff
    (run : Run)
    (character : Char) :
    run.covers character = true ↔ run.first ≤ character.toNat ∧ character.toNat ≤ run.last := by
  simp [covers]

/-- The value of a hexadecimal digit in lower case. -/
def digitValue (digit : Char) : Nat :=
  if digit.toNat < 58 then digit.toNat - 48 else digit.toNat - 87

/--
Reads runs separated by spaces.  `first` holds the lower end once a hyphen has been read, and
`value` the number read so far, when there is one.
-/
def read : List Char → Option Nat → Option Nat → List Run
  | [], first, value =>
      match value with
      | none => []
      | some last => [⟨first.getD last, last⟩]
  | ' ' :: rest, first, value =>
      match value with
      | none => read rest none none
      | some last => ⟨first.getD last, last⟩ :: read rest none none
  | '-' :: rest, _, value => read rest value none
  | digit :: rest, first, value =>
      read rest first (some (value.getD 0 * 16 + digitValue digit))

/-- Reads the runs of a table, which may be broken between runs into several lines. -/
def readLines (lines : List String) : List Run :=
  lines.flatMap fun line => read line.toList none none

end Run
end Unicode
end ResourceRouting
