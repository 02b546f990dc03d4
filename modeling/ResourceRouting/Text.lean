import ResourceRouting.Unicode.Property

/-!
# Text

Text is handled as the list of its characters.  Positions in a text are counted in the bytes of
its UTF-8 form where they are shown to a reader.
-/

namespace ResourceRouting

/-- A text is the list of its characters. -/
abbrev Text := List Char

namespace Text

/-- The number of bytes of the UTF-8 form. -/
def byteCount (text : Text) : Nat :=
  text.foldr (fun character count => character.utf8Size + count) 0

@[simp]
theorem byteCount_nil : byteCount [] = 0 := rfl

@[simp]
theorem byteCount_append (first second : Text) :
    byteCount (first ++ second) = byteCount first + byteCount second := by
  induction first with
  | nil => exact (Nat.zero_add _).symm
  | cons character first ih =>
      simp only [byteCount, List.cons_append, List.foldr_cons] at ih ⊢
      rw [ih, Nat.add_assoc]

/-- The text without the white space it begins with. -/
def trimStart (text : Text) : Text :=
  text.dropWhile Unicode.isBlank

/-- The text without the white space it ends with. -/
def trimEnd (text : Text) : Text :=
  (text.reverse.dropWhile Unicode.isBlank).reverse

/-- The text without the white space at its ends. -/
def trim (text : Text) : Text :=
  trimEnd (trimStart text)

/-- The parts before and after the first occurrence of a mark, when there is one. -/
def cut (mark : Char) : Text → Option (Text × Text)
  | [] => none
  | character :: rest =>
      if character = mark then
        some ([], rest)
      else
        (cut mark rest).map fun (before, after) => (character :: before, after)

/-- What stands behind a mark is shorter than the text that holds the mark. -/
theorem length_cut {mark : Char} {text before after : Text}
    (found : cut mark text = some (before, after)) : after.length < text.length := by
  induction text generalizing before with
  | nil => cases found
  | cons character rest ih =>
      simp only [cut] at found
      split at found
      · cases found
        exact Nat.lt_succ_self _
      · obtain ⟨⟨front, back⟩, inner, equal⟩ := Option.map_eq_some_iff.mp found
        cases equal
        exact Nat.lt_succ_of_lt (ih inner)

/-- All parts between the occurrences of a mark; a text without the mark is one part. -/
def pieces (mark : Char) : Text → List Text
  | [] => [[]]
  | character :: rest =>
      if character = mark then
        [] :: pieces mark rest
      else
        match pieces mark rest with
        | [] => [[character]]
        | part :: parts => (character :: part) :: parts

/-- Whether a text occurs in another one. -/
def occursIn (part : Text) : Text → Bool
  | [] => part.isEmpty
  | character :: rest => part.isPrefixOf (character :: rest) || occursIn part rest

/-- Whether a character is one of the hexadecimal digits. -/
def isHexDigit (character : Char) : Bool :=
  character.isDigit || ('a' ≤ character && character ≤ 'f') ||
    ('A' ≤ character && character ≤ 'F')

/-- The value of a hexadecimal digit. -/
def hexValue (digit : Char) : Nat :=
  if digit.isDigit then digit.toNat - 48
  else if digit.toNat < 97 then digit.toNat - 55
  else digit.toNat - 87

/-- The number that hexadecimal digits denote. -/
def ofHex (digits : Text) : Nat :=
  digits.foldl (fun value digit => value * 16 + hexValue digit) 0

/-- The number that decimal digits denote. -/
def ofDecimal (digits : Text) : Nat :=
  digits.foldl (fun value digit => value * 10 + (digit.toNat - 48)) 0

/-- The lower-case form of an ASCII letter; other characters stay. -/
def lowerAscii (text : Text) : Text :=
  text.map Char.toLower

/-- The ASCII text in decimal digits of a number. -/
def decimal (number : Nat) : Text :=
  Nat.toDigits 10 number

end Text
end ResourceRouting
