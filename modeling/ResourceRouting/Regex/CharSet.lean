import ResourceRouting.Unicode.CaseMap

/-!
# Sets of characters

The sets that a character class of a regular expression denotes: tables, the set operations, and
closure under change of case.
-/

namespace ResourceRouting
namespace Regex

/-- A set of characters, written with the operations that build it. -/
inductive CharSet
  /-- The characters of a table. -/
  | runs (table : List Unicode.Run)
  /-- The characters in either set. -/
  | union (left right : CharSet)
  /-- The characters in both sets. -/
  | inter (left right : CharSet)
  /-- The characters in the first set and not in the second. -/
  | diff (left right : CharSet)
  /-- The characters not in the set. -/
  | compl (set : CharSet)
  /-- The characters that differ only in case from one in the set. -/
  | anyCase (set : CharSet)
  /-- The same, with regard to the case of ASCII letters alone. -/
  | anyAsciiCase (set : CharSet)
  deriving DecidableEq, Repr

namespace CharSet

/-- The other case of an ASCII letter; other characters stay. -/
def swapAsciiCase (character : Char) : Char :=
  if character.isUpper then character.toLower else character.toUpper

/-- Whether a character is in the set. -/
def contains : CharSet → Char → Bool
  | runs table, character => table.any (·.covers character)
  | union left right, character => left.contains character || right.contains character
  | inter left right, character => left.contains character && right.contains character
  | diff left right, character => left.contains character && !right.contains character
  | compl set, character => !set.contains character
  | anyCase set, character =>
      set.contains character || (Unicode.caseVariants character).any set.contains
  | anyAsciiCase set, character =>
      set.contains character || set.contains (swapAsciiCase character)

/-- The set with no character. -/
def empty : CharSet := runs []

/-- The set of all characters. -/
def all : CharSet := compl empty

/-- The characters from one to another, both included. -/
def range (first last : Char) : CharSet := runs [⟨first.toNat, last.toNat⟩]

/-- The set of one character. -/
def single (character : Char) : CharSet := range character character

/-- The characters in exactly one of two sets. -/
def symmDiff (left right : CharSet) : CharSet :=
  union (diff left right) (diff right left)

/-- A single character is the only member of its set. -/
theorem contains_single
    (member character : Char) :
    (single member).contains character = true ↔ character = member := by
  simp only [single, range, contains, List.any_cons, List.any_nil, Bool.or_false,
    Unicode.Run.covers_iff]
  constructor
  · intro bounds
    have equal : character.toNat = member.toNat := Nat.le_antisymm bounds.2 bounds.1
    exact Char.toNat_inj.mp equal
  · rintro rfl
    exact ⟨Nat.le_refl _, Nat.le_refl _⟩

@[simp]
theorem contains_empty (character : Char) : empty.contains character = false := rfl

@[simp]
theorem contains_all (character : Char) : all.contains character = true := rfl

/-- Whether the set holds no character with a code point from 128 to 255. -/
def isAscii (set : CharSet) : Bool :=
  (List.range 128).all fun index => !set.contains (Char.ofNat (128 + index))

end CharSet
end Regex
end ResourceRouting
