import ResourceRouting.Uri.Component

/-!
# Looking for escapes among the bytes of a text

The escapes that a text holds already are found byte by byte.  The text is then cut before and
behind each of them, at positions that are counted in bytes.  Such a position need not be one of a
character, so that a cut can fail.
-/

namespace ResourceRouting

namespace Utf8

/--
A text cut behind a number of bytes.  There is no result if the cut falls inside of a character or
behind the end.
-/
def cut? : Nat → Text → Option (Text × Text)
  | 0, text => some ([], text)
  | _ + 1, [] => none
  | count + 1, character :: rest =>
      if (encodeChar character).length ≤ count + 1 then
        (cut? (count + 1 - (encodeChar character).length) rest).map
          fun (front, behind) => (character :: front, behind)
      else
        none

/-- A text is parted by a cut, with as many bytes in front as were asked for. -/
theorem eq_append_of_cut? {count : Nat} {text front behind : Text}
    (divided : cut? count text = some (front, behind)) :
    text = front ++ behind ∧ (encode front).length = count := by
  induction text generalizing count front with
  | nil =>
      cases count with
      | zero =>
          cases divided
          exact ⟨rfl, rfl⟩
      | succ count => cases divided
  | cons character rest ih =>
      cases count with
      | zero =>
          cases divided
          exact ⟨rfl, rfl⟩
      | succ count =>
          rw [cut?] at divided
          split at divided
          · rename_i fits
            obtain ⟨⟨inner, others⟩, parted, equal⟩ := Option.map_eq_some_iff.mp divided
            cases equal
            obtain ⟨rfl, length⟩ := ih parted
            refine ⟨rfl, ?_⟩
            rw [encode_cons, List.length_append, length]
            omega
          · cases divided

/-- A text can be cut between any two characters. -/
theorem cut?_append (front behind : Text) :
    cut? (encode front).length (front ++ behind) = some (front, behind) := by
  induction front with
  | nil => cases behind <;> rfl
  | cons character front ih =>
      have positive := List.length_pos_iff.mpr (encodeChar_ne_nil character)
      have bytes : (encode (character :: front)).length =
          (encodeChar character).length - 1 + (encode front).length + 1 := by
        rw [encode_cons, List.length_append]
        omega
      have left : (encodeChar character).length - 1 + (encode front).length + 1 -
          (encodeChar character).length = (encode front).length := by
        omega
      rw [bytes, List.cons_append, cut?, if_pos (by omega), left, ih]
      rfl

theorem cut?_eq_some_iff {count : Nat} {text front behind : Text} :
    cut? count text = some (front, behind) ↔
      text = front ++ behind ∧ (encode front).length = count := by
  constructor
  · exact eq_append_of_cut?
  · rintro ⟨rfl, rfl⟩
    exact cut?_append front behind

end Utf8

namespace Percent

/-- Whether a byte is that of a hexadecimal digit. -/
def isHexDigitByte (byte : UInt8) : Bool :=
  Text.isHexDigit (Char.ofNat byte.toNat)

/-- Whether an escape begins at a position among some bytes. -/
def isEscapeAt (bytes : List UInt8) (position : Nat) : Bool :=
  bytes[position]? == some 0x25 && (bytes[position + 1]?).any isHexDigitByte &&
    (bytes[position + 2]?).any isHexDigitByte

/-- The first position at which an escape begins among some bytes. -/
def firstEscape? (bytes : List UInt8) : Option Nat :=
  (List.range bytes.length).find? (isEscapeAt bytes)

/--
A text divided into what stands before the first escape, the escape, and what stands behind it,
given the position of the escape.
-/
def around? (position : Nat) (text : Text) : Option (Text × Text × Text) :=
  (Utf8.cut? position text).bind fun (front, behind) =>
    (Utf8.cut? 3 behind).map fun (escape, rest) => (front, escape, rest)

theorem around?_eq_some_iff {position : Nat} {text front escape rest : Text} :
    around? position text = some (front, escape, rest) ↔
      text = front ++ (escape ++ rest) ∧ (Utf8.encode front).length = position ∧
        (Utf8.encode escape).length = 3 := by
  simp only [around?, Option.bind_eq_some_iff, Option.map_eq_some_iff, Prod.exists,
    Utf8.cut?_eq_some_iff, Prod.mk.injEq]
  constructor
  · rintro ⟨_, _, ⟨rfl, length⟩, _, _, ⟨rfl, three⟩, rfl, rfl, rfl⟩
    exact ⟨rfl, length, three⟩
  · rintro ⟨rfl, length, three⟩
    exact ⟨front, _, ⟨rfl, length⟩, escape, rest, ⟨rfl, three⟩, rfl, rfl, rfl⟩

/-- What stands behind an escape is shorter than the text. -/
theorem length_of_around? {position : Nat} {text front escape rest : Text}
    (divided : around? position text = some (front, escape, rest)) :
    rest.length < text.length := by
  obtain ⟨rfl, _, three⟩ := around?_eq_some_iff.mp divided
  cases escape with
  | nil => cases three
  | cons character escape =>
      simp only [List.length_append, List.length_cons]
      omega

end Percent

namespace Uri
namespace Component

/--
A text as it is written in a component when escapes that it holds already are kept, by looking for
the next escape among the bytes and going on behind it.  There is no result if a cut fails.
-/
def scanLiteral? (component : Component) (text : Text) : Option Text :=
  match Percent.firstEscape? (Utf8.encode text) with
  | none => some (component.encode text)
  | some position =>
      match divided : Percent.around? position text with
      | none => none
      | some (front, escape, rest) =>
          have := Percent.length_of_around? divided
          (component.scanLiteral? rest).map (component.encode front ++ escape ++ ·)
termination_by text.length

end Component
end Uri
end ResourceRouting
