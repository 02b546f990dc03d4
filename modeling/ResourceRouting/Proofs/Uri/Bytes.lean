import ResourceRouting.Proofs.Uri.Decoding
import ResourceRouting.Proofs.Uri.Legal
import ResourceRouting.Uri.Component.Scan

/-!
# Legal text by its bytes

Whether a text is legal in a component can be told from its bytes, and a value can be encoded byte
by byte.  Only ASCII characters are allowed or stand in escapes, and no byte of another character
is one of theirs.
-/

namespace ResourceRouting

namespace Utf8

theorem encodeChar_of_lt {character : Char} (ascii : character.toNat < 128) :
    encodeChar character = [UInt8.ofNat character.toNat] :=
  if_pos ascii

/-- No byte of another character is one of an ASCII character. -/
theorem le_of_mem_encodeChar
    {character : Char}
    (wide : 128 ≤ character.toNat)
    {byte : UInt8}
    (present : byte ∈ encodeChar character) :
    128 ≤ byte.toNat := by
  have valid := toNat_valid character
  have bounded : ∀ {number : Nat}, 128 ≤ number → number < 256 →
      128 ≤ (UInt8.ofNat number).toNat := fun lower upper => by
    rwa [toNat_ofNat_of_lt upper]
  dsimp only [encodeChar] at present
  rw [if_neg (by omega)] at present
  split at present
  · simp only [List.mem_cons, List.not_mem_nil, or_false] at present
    rcases present with rfl | rfl <;> exact bounded (by omega) (by omega)
  · split at present
    · simp only [List.mem_cons, List.not_mem_nil, or_false] at present
      rcases present with rfl | rfl | rfl <;> exact bounded (by omega) (by omega)
    · simp only [List.mem_cons, List.not_mem_nil, or_false] at present
      rcases present with rfl | rfl | rfl | rfl <;> exact bounded (by omega) (by omega)

theorem eq_nil_of_encode {text : Text} (empty : encode text = []) : text = [] := by
  cases text with
  | nil => rfl
  | cons character text =>
      rw [encode_cons, List.append_eq_nil_iff] at empty
      exact absurd empty.1 (encodeChar_ne_nil character)

/-- A text whose bytes begin with the one of an ASCII character begins with the character. -/
theorem exists_of_encode_eq_cons
    {text : Text}
    {byte : UInt8}
    {bytes : List UInt8}
    (equal : encode text = byte :: bytes)
    (ascii : byte.toNat < 128) :
    ∃ rest, text = Char.ofNat byte.toNat :: rest ∧ encode rest = bytes := by
  cases text with
  | nil => cases equal
  | cons character rest =>
      rw [encode_cons] at equal
      by_cases narrow : character.toNat < 128
      · rw [encodeChar_of_lt narrow, List.singleton_append] at equal
        injection equal with first others
        refine ⟨rest, ?_, others⟩
        rw [← first, toNat_ofNat_of_lt (by omega), Char.ofNat_toNat]
      · cases written : encodeChar character with
        | nil => exact absurd written (encodeChar_ne_nil character)
        | cons first others =>
            rw [written, List.cons_append] at equal
            injection equal with same _
            have large := le_of_mem_encodeChar (Nat.not_lt.mp narrow)
              (written ▸ List.mem_cons_self : first ∈ encodeChar character)
            rw [same] at large
            exact absurd ascii (Nat.not_lt.mpr large)

end Utf8

namespace Text

theorem toNat_ofNat_byte (byte : UInt8) : (Char.ofNat byte.toNat).toNat = byte.toNat := by
  have bounded : byte.toNat < 256 := byte.toNat_lt
  have valid : byte.toNat.isValidChar := .inl (by omega)
  rw [Char.ofNat, dif_pos valid]
  rfl

end Text

namespace Percent

theorem isHexDigitByte_ofNat {character : Char} (ascii : character.toNat < 128) :
    isHexDigitByte (UInt8.ofNat character.toNat) = Text.isHexDigit character := by
  rw [isHexDigitByte, Utf8.toNat_ofNat_of_lt (by omega), Char.ofNat_toNat]

theorem lt_of_isHexDigitByte {byte : UInt8} (digit : isHexDigitByte byte = true) :
    byte.toNat < 128 := by
  rw [← Text.toNat_ofNat_byte]
  exact Text.lt_of_isHexDigit digit

/-- The bytes of an escape are that of a percent sign and those of two digits. -/
theorem exists_encode_eq_escape
    {high low : Char}
    (highDigit : Text.isHexDigit high = true)
    (lowDigit : Text.isHexDigit low = true)
    (rest : Text) :
    ∃ highByte lowByte,
      Utf8.encode ('%' :: high :: low :: rest) =
          0x25 :: highByte :: lowByte :: Utf8.encode rest ∧
        isHexDigitByte highByte = true ∧ isHexDigitByte lowByte = true := by
  have highAscii := Text.lt_of_isHexDigit highDigit
  have lowAscii := Text.lt_of_isHexDigit lowDigit
  refine ⟨UInt8.ofNat high.toNat, UInt8.ofNat low.toNat, ?_,
    (isHexDigitByte_ofNat highAscii).trans highDigit,
    (isHexDigitByte_ofNat lowAscii).trans lowDigit⟩
  rw [Utf8.encode_cons, Utf8.encode_cons, Utf8.encode_cons, Utf8.encodeChar_of_lt highAscii,
    Utf8.encodeChar_of_lt lowAscii]
  rfl

/-- A text whose bytes begin with those of an escape begins with the escape. -/
theorem exists_of_encode_eq_escape
    {text : Text}
    {high low : UInt8}
    {bytes : List UInt8}
    (equal : Utf8.encode text = 0x25 :: high :: low :: bytes)
    (highDigit : isHexDigitByte high = true)
    (lowDigit : isHexDigitByte low = true) :
    ∃ highChar lowChar rest, text = '%' :: highChar :: lowChar :: rest ∧
      Text.isHexDigit highChar = true ∧ Text.isHexDigit lowChar = true ∧
      Utf8.encode rest = bytes := by
  obtain ⟨_, rfl, digits⟩ := Utf8.exists_of_encode_eq_cons equal (by decide)
  obtain ⟨_, rfl, digit⟩ := Utf8.exists_of_encode_eq_cons digits (lt_of_isHexDigitByte highDigit)
  obtain ⟨rest, rfl, others⟩ := Utf8.exists_of_encode_eq_cons digit (lt_of_isHexDigitByte lowDigit)
  exact ⟨_, _, rest, rfl, highDigit, lowDigit, others⟩

end Percent

namespace Uri
namespace Component

/-- Whether a byte may stand in a component without an escape. -/
def allowsByte (component : Component) (byte : UInt8) : Bool :=
  component.allows (Char.ofNat byte.toNat)

/-- Bytes that a component allows, and well-formed escapes. -/
inductive IsLegalBytes (component : Component) : List UInt8 → Prop
  /-- No bytes are legal everywhere. -/
  | nil : IsLegalBytes component []
  /-- An allowed byte stands for itself. -/
  | allowed
      {byte : UInt8}
      {rest : List UInt8}
      (allowed : component.allowsByte byte = true)
      (others : IsLegalBytes component rest) :
      IsLegalBytes component (byte :: rest)
  /-- An escape is the byte of a percent sign and those of two digits. -/
  | escape
      {high low : UInt8}
      {rest : List UInt8}
      (highDigit : Percent.isHexDigitByte high = true)
      (lowDigit : Percent.isHexDigitByte low = true)
      (others : IsLegalBytes component rest) :
      IsLegalBytes component (0x25 :: high :: low :: rest)

variable {component : Component}

theorem lt_of_allowsByte {byte : UInt8} (allowed : component.allowsByte byte = true) :
    byte.toNat < 128 := by
  rw [← Text.toNat_ofNat_byte]
  exact lt_of_allows allowed

theorem allowsByte_ofNat {character : Char} (ascii : character.toNat < 128) :
    component.allowsByte (UInt8.ofNat character.toNat) = component.allows character := by
  rw [allowsByte, Utf8.toNat_ofNat_of_lt (by omega), Char.ofNat_toNat]

theorem IsLegal.encode {text : Text} (legal : component.IsLegal text) :
    component.IsLegalBytes (Utf8.encode text) := by
  induction legal with
  | nil => exact .nil
  | allowed allowed _ ih =>
      have ascii := lt_of_allows allowed
      rw [Utf8.encode_cons, Utf8.encodeChar_of_lt ascii]
      exact .allowed ((allowsByte_ofNat ascii).trans allowed) ih
  | escape highDigit lowDigit _ ih =>
      obtain ⟨_, _, bytes, highDigit, lowDigit⟩ :=
        Percent.exists_encode_eq_escape highDigit lowDigit _
      rw [bytes]
      exact .escape highDigit lowDigit ih

theorem IsLegalBytes.isLegal
    {bytes : List UInt8}
    (legal : component.IsLegalBytes bytes)
    {text : Text}
    (equal : Utf8.encode text = bytes) :
    component.IsLegal text := by
  induction legal generalizing text with
  | nil =>
      rw [Utf8.eq_nil_of_encode equal]
      exact .nil
  | allowed allowed _ ih =>
      obtain ⟨rest, rfl, others⟩ :=
        Utf8.exists_of_encode_eq_cons equal (lt_of_allowsByte allowed)
      exact .allowed allowed (ih others)
  | escape highDigit lowDigit _ ih =>
      obtain ⟨_, _, _, rfl, highDigit, lowDigit, others⟩ :=
        Percent.exists_of_encode_eq_escape equal highDigit lowDigit
      exact .escape highDigit lowDigit (ih others)

/-- A text is legal exactly if its bytes are. -/
theorem isLegalBytes_encode_iff {text : Text} :
    component.IsLegalBytes (Utf8.encode text) ↔ component.IsLegal text :=
  ⟨fun legal => legal.isLegal rfl, IsLegal.encode⟩

/-- A byte as it is written in a component. -/
def encodeByte (component : Component) (byte : UInt8) : Text :=
  if component.allowsByte byte then [Char.ofNat byte.toNat] else Percent.escapeByte byte

theorem encodeChar_eq_flatMap (character : Char) :
    component.encodeChar character =
      (Utf8.encodeChar character).flatMap component.encodeByte := by
  by_cases ascii : character.toNat < 128
  · rw [encodeChar, Percent.escapeChar, Utf8.encodeChar_of_lt ascii, List.flatMap_singleton,
      List.flatMap_singleton, encodeByte, allowsByte_ofNat ascii,
      Utf8.toNat_ofNat_of_lt (by omega), Char.ofNat_toNat]
  · have wide := Nat.not_lt.mp ascii
    rw [encodeChar, if_neg (fun allowed => ascii (lt_of_allows allowed)), Percent.escapeChar,
      List.flatMap_def, List.flatMap_def]
    apply congrArg
    apply List.map_congr_left
    intro byte present
    have large := Utf8.le_of_mem_encodeChar wide present
    rw [encodeByte, if_neg (fun allowed => Nat.not_lt.mpr large (lt_of_allowsByte allowed))]

/-- A value is encoded byte by byte. -/
theorem encode_eq_flatMap (value : Text) :
    component.encode value = (Utf8.encode value).flatMap component.encodeByte := by
  induction value with
  | nil => rfl
  | cons character value ih =>
      rw [encode_cons, Utf8.encode_cons, List.flatMap_append, ih, encodeChar_eq_flatMap]

end Component
end Uri
end ResourceRouting
