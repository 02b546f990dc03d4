import ResourceRouting.Proofs.Uri.Bytes

/-!
# Escapes that are found byte by byte

Looking at the bytes of a text finds the escapes that are there when it is read character by
character.  An escape therefore begins and ends between two characters, and a text that is cut
around its escapes is written as it is character by character.  What is written is legal, is not
changed when it is written again, and stands for the same bytes as the text.
-/

namespace ResourceRouting

namespace Percent

/-- Bytes begin with an escape if they begin with a percent sign and two digits. -/
theorem isEscapeAt_zero_iff {bytes : List UInt8} :
    isEscapeAt bytes 0 = true ↔
      ∃ high low rest, bytes = 0x25 :: high :: low :: rest ∧
        isHexDigitByte high = true ∧ isHexDigitByte low = true := by
  match bytes with
  | [] => simp [isEscapeAt]
  | [_] => simp [isEscapeAt]
  | [_, _] => simp [isEscapeAt]
  | sign :: high :: low :: rest => simp [isEscapeAt, and_assoc]

theorem firstEscape?_of_isEscapeAt {bytes : List UInt8} (escape : isEscapeAt bytes 0 = true) :
    firstEscape? bytes = some 0 := by
  cases bytes with
  | nil => cases escape
  | cons byte bytes =>
      rw [firstEscape?, List.length_cons, List.range_succ_eq_map, List.find?_cons_of_pos escape]

theorem firstEscape?_cons {byte : UInt8} {bytes : List UInt8}
    (noEscape : isEscapeAt (byte :: bytes) 0 = false) :
    firstEscape? (byte :: bytes) = (firstEscape? bytes).map (· + 1) := by
  rw [firstEscape?, List.length_cons, List.range_succ_eq_map,
    List.find?_cons_of_neg (Bool.eq_false_iff.mp noEscape), List.find?_map]
  -- One position further on is the same place among the bytes behind the first.
  rfl

/-- Bytes that hold no percent sign are passed over. -/
theorem firstEscape?_append {front bytes : List UInt8} (foreign : 0x25 ∉ front) :
    firstEscape? (front ++ bytes) = (firstEscape? bytes).map (· + front.length) := by
  induction front with
  | nil => exact Option.map_id.symm ▸ rfl
  | cons byte front ih =>
      rw [List.mem_cons, not_or] at foreign
      have noEscape : isEscapeAt (byte :: (front ++ bytes)) 0 = false := by
        rw [Bool.eq_false_iff, ne_eq, isEscapeAt_zero_iff]
        rintro ⟨high, low, rest, equal, _⟩
        injection equal with sign _
        exact foreign.1 sign.symm
      rw [List.cons_append, firstEscape?_cons noEscape, ih foreign.2, Option.map_map]
      rfl

theorem percent_not_mem_encodeChar {character : Char} (other : character ≠ '%') :
    0x25 ∉ Utf8.encodeChar character := by
  intro present
  by_cases ascii : character.toNat < 128
  · rw [Utf8.encodeChar_of_lt ascii, List.mem_singleton] at present
    have code : character.toNat = 0x25 := by
      rw [← Utf8.toNat_ofNat_of_lt (show character.toNat < 256 by omega), ← present]
      rfl
    rw [← Char.ofNat_toNat character, code] at other
    exact other rfl
  · exact absurd (Utf8.le_of_mem_encodeChar (Nat.not_lt.mp ascii) present) (by decide)

/-- The bytes of a text begin with an escape exactly if its characters do. -/
theorem isEscapeAt_encode_iff {text : Text} :
    isEscapeAt (Utf8.encode text) 0 = true ↔
      ∃ high low rest, text = '%' :: high :: low :: rest ∧
        beginsWithDigits (high :: low :: rest) = true := by
  rw [isEscapeAt_zero_iff]
  constructor
  · rintro ⟨high, low, bytes, equal, highDigit, lowDigit⟩
    obtain ⟨_, _, rest, rfl, highDigit, lowDigit, _⟩ :=
      exists_of_encode_eq_escape equal highDigit lowDigit
    exact ⟨_, _, rest, rfl, Bool.and_eq_true_iff.mpr ⟨highDigit, lowDigit⟩⟩
  · rintro ⟨high, low, rest, rfl, digits⟩
    obtain ⟨highDigit, lowDigit⟩ := Bool.and_eq_true_iff.mp digits
    obtain ⟨_, _, bytes, highDigit, lowDigit⟩ := exists_encode_eq_escape highDigit lowDigit rest
    exact ⟨_, _, Utf8.encode rest, bytes, highDigit, lowDigit⟩

/-- The bytes of a character that begins no escape are passed over. -/
theorem firstEscape?_encode_cons {character : Char} {rest : Text}
    (noEscape : character ≠ '%' ∨ beginsWithDigits rest = false) :
    firstEscape? (Utf8.encode (character :: rest)) =
      (firstEscape? (Utf8.encode rest)).map (· + (Utf8.encodeChar character).length) := by
  by_cases sign : character = '%'
  · subst sign
    apply firstEscape?_cons
    rw [Bool.eq_false_iff]
    intro escape
    obtain ⟨high, low, others, equal, digits⟩ :=
      isEscapeAt_encode_iff.mp (show isEscapeAt (Utf8.encode ('%' :: rest)) 0 = true from escape)
    injection equal with _ behind
    have noDigits := noEscape.resolve_left (not_not_intro rfl)
    rw [behind, digits] at noDigits
    cases noDigits
  · exact firstEscape?_append (percent_not_mem_encodeChar sign)

/-- A text is divided around the same escape when a character stands in front of it. -/
theorem around?_cons
    {position : Nat}
    {text front escape rest : Text}
    (divided : around? position text = some (front, escape, rest))
    (character : Char) :
    around? (position + (Utf8.encodeChar character).length) (character :: text) =
      some (character :: front, escape, rest) := by
  obtain ⟨rfl, length, three⟩ := around?_eq_some_iff.mp divided
  refine around?_eq_some_iff.mpr ⟨rfl, ?_, three⟩
  rw [Utf8.encode_cons, List.length_append, length, Nat.add_comm]

theorem around?_zero_escape {high low : Char} {rest : Text}
    (digits : beginsWithDigits (high :: low :: rest) = true) :
    around? 0 ('%' :: high :: low :: rest) = some ([], ['%', high, low], rest) := by
  obtain ⟨highDigit, lowDigit⟩ := Bool.and_eq_true_iff.mp digits
  obtain ⟨_, _, bytes, _⟩ := exists_encode_eq_escape highDigit lowDigit []
  exact around?_eq_some_iff.mpr ⟨rfl, rfl, by rw [bytes]; rfl⟩

end Percent

namespace Uri
namespace Component

variable {component : Component}

/-- What a scan does: it encodes a text without escapes, or goes on behind the first one. -/
theorem scanLiteral?_eq_some_iff {text written : Text} :
    component.scanLiteral? text = some written ↔
      (Percent.firstEscape? (Utf8.encode text) = none ∧ component.encode text = written) ∨
        ∃ position front escape rest further,
          Percent.firstEscape? (Utf8.encode text) = some position ∧
            Percent.around? position text = some (front, escape, rest) ∧
            component.scanLiteral? rest = some further ∧
            component.encode front ++ escape ++ further = written := by
  rw [scanLiteral?]
  split
  · rename_i nowhere
    simp [nowhere]
  · rename_i position found
    split
    · rename_i undivided
      simp [found, undivided]
    · rename_i front escape rest divided
      simp only [Option.map_eq_some_iff, found, reduceCtorEq, false_and, false_or,
        Option.some.injEq]
      constructor
      · rintro ⟨further, scanned, rfl⟩
        exact ⟨position, front, escape, rest, further, rfl, divided, scanned, rfl⟩
      · rintro ⟨_, _, _, _, further, rfl, again, scanned, rfl⟩
        rw [divided] at again
        cases again
        exact ⟨further, scanned, rfl⟩

/-- A character that begins no escape is written in front of the others. -/
theorem scanLiteral?_cons
    {character : Char}
    {rest written : Text}
    (noEscape : character ≠ '%' ∨ Percent.beginsWithDigits rest = false)
    (scanned : component.scanLiteral? rest = some written) :
    component.scanLiteral? (character :: rest) =
      some (component.encodeChar character ++ written) := by
  rw [scanLiteral?_eq_some_iff, Percent.firstEscape?_encode_cons noEscape]
  rcases scanLiteral?_eq_some_iff.mp scanned with
    ⟨nowhere, rfl⟩ | ⟨position, front, escape, others, further, found, divided, behind, rfl⟩
  · exact .inl ⟨by rw [nowhere, Option.map_none], rfl⟩
  · refine .inr ⟨_, character :: front, escape, others, further, ?_,
      Percent.around?_cons divided character, behind, ?_⟩
    · rw [found, Option.map_some]
    · rw [encode_cons, List.append_assoc, List.append_assoc, List.append_assoc]

/-- An escape is kept in front of the others. -/
theorem scanLiteral?_escape
    {high low : Char}
    {rest written : Text}
    (digits : Percent.beginsWithDigits (high :: low :: rest) = true)
    (scanned : component.scanLiteral? rest = some written) :
    component.scanLiteral? ('%' :: high :: low :: rest) = some ('%' :: high :: low :: written) := by
  have found := Percent.firstEscape?_of_isEscapeAt
    (Percent.isEscapeAt_encode_iff.mpr ⟨high, low, rest, rfl, digits⟩)
  exact scanLiteral?_eq_some_iff.mpr (.inr ⟨0, [], ['%', high, low], rest, written, found,
    Percent.around?_zero_escape digits, scanned, rfl⟩)

/-- A scan never cuts inside of a character, and writes what is written character by character. -/
theorem scanLiteral?_eq_encodeLiteral (text : Text) :
    component.scanLiteral? text = some (component.encodeLiteral text) := by
  induction text using encodeLiteral_induction with
  | nil => exact scanLiteral?_eq_some_iff.mpr (.inl ⟨rfl, rfl⟩)
  | escape high low rest digits ih =>
      rw [encodeLiteral_escape digits]
      exact scanLiteral?_escape digits ih
  | cons character rest noEscape ih =>
      rw [encodeLiteral_cons noEscape]
      exact scanLiteral?_cons noEscape ih

/--
Writing a text with its escapes kept changes its form and not its meaning.  The bytes of what is
written are allowed in the component or belong to escapes; writing it again changes nothing; it is
decoded to the same bytes as the text; and the scan for escapes among the bytes of the text arrives
there with every cut between two characters.
-/
theorem encodeLiteral_normalizes (component : Component) (text : Text) :
    component.IsLegalBytes (Utf8.encode (component.encodeLiteral text)) ∧
      component.encodeLiteral (component.encodeLiteral text) = component.encodeLiteral text ∧
      Percent.decode (component.encodeLiteral text) = Percent.decode text ∧
      component.scanLiteral? text = some (component.encodeLiteral text) :=
  ⟨(isLegal_encodeLiteral text).encode, (isLegal_encodeLiteral text).encodeLiteral_eq,
    decode_encodeLiteral component text, scanLiteral?_eq_encodeLiteral text⟩

example : Component.path.encodeLiteral "%%41é%4%41%4".toList =
    "%25%41%C3%A9%254%41%254".toList := by
  decide +kernel

end Component
end Uri
end ResourceRouting
