import ResourceRouting.Proofs.Uri.Encoding

/-!
# Decoding what was encoded

The bytes of a text are read back as the text, and a value written in a component is read back as
the bytes of the value.  A text that is written with its escapes kept is read as the bytes that it
stood for before.
-/

namespace ResourceRouting
namespace Utf8

/-- The code point of a character is below the surrogates or above them. -/
theorem toNat_valid (character : Char) :
    character.toNat < 0xd800 ∨ 0xe000 ≤ character.toNat ∧ character.toNat < 0x110000 := by
  have valid : character.toNat < 0xd800 ∨ 0xdfff < character.toNat ∧ character.toNat < 0x110000 :=
    character.valid
  omega

theorem toNat_ofNat_of_lt {number : Nat} (small : number < 256) :
    (UInt8.ofNat number).toNat = number := by
  rw [UInt8.toNat_ofNat', Nat.mod_eq_of_lt small]

/-- A byte within the bounds goes on with a character. -/
theorem continueFrom_succ
    {count code low high number : Nat}
    {rest : List UInt8}
    (small : number < 256)
    (lower : low ≤ number)
    (upper : number ≤ high) :
    continueFrom (count + 1) code low high (UInt8.ofNat number :: rest) =
      continueFrom count (code * 0x40 + (number - 0x80)) 0x80 0xbf rest := by
  rw [continueFrom, toNat_ofNat_of_lt small, if_pos (by simp [lower, upper])]

/-- The first byte of a character with others decides how many follow. -/
theorem next_of_lead
    {number count code low high : Nat}
    {rest : List UInt8}
    (small : number < 256)
    (large : 0x80 ≤ number)
    (lead : lead? number = some (count, code, low, high)) :
    next (UInt8.ofNat number) rest =
      ((continueFrom count code low high rest).1.map Char.ofNat,
        (continueFrom count code low high rest).2) := by
  rw [next, toNat_ofNat_of_lt small, if_neg (Nat.not_lt.mpr large), lead]

theorem lead?_two {code : Nat} (lower : 0x80 ≤ code) (upper : code < 0x800) :
    lead? (0xc0 + code / 0x40) = some (1, code / 0x40, 0x80, 0xbf) := by
  have first :
      (decide (0xc2 ≤ 0xc0 + code / 0x40) && decide (0xc0 + code / 0x40 ≤ 0xdf)) = true := by
    rw [Bool.and_eq_true, decide_eq_true_eq, decide_eq_true_eq]
    omega
  rw [lead?, if_pos first, Nat.add_sub_cancel_left]

/-- The first byte of three, and the bounds that the second one keeps. -/
theorem exists_lead?_three
    {code : Nat}
    (lower : 0x800 ≤ code)
    (upper : code < 0x10000)
    (valid : code < 0xd800 ∨ 0xe000 ≤ code) :
    ∃ low high, lead? (0xe0 + code / 0x1000) = some (2, code / 0x1000, low, high) ∧
      low ≤ 0x80 + code / 0x40 % 0x40 ∧ 0x80 + code / 0x40 % 0x40 ≤ high := by
  by_cases lowest : code / 0x1000 = 0
  · rw [lowest]
    exact ⟨0xa0, 0xbf, rfl, by omega, by omega⟩
  · by_cases surrogates : code / 0x1000 = 0xd
    · rw [surrogates]
      exact ⟨0x80, 0x9f, rfl, by omega, by omega⟩
    · refine ⟨0x80, 0xbf, ?_, by omega, by omega⟩
      have notTwo : ¬(decide (0xc2 ≤ 0xe0 + code / 0x1000) &&
          decide (0xe0 + code / 0x1000 ≤ 0xdf)) = true := by
        rw [Bool.and_eq_true, decide_eq_true_eq, decide_eq_true_eq]
        omega
      have three : (decide (0xe1 ≤ 0xe0 + code / 0x1000) &&
          decide (0xe0 + code / 0x1000 ≤ 0xef)) = true := by
        rw [Bool.and_eq_true, decide_eq_true_eq, decide_eq_true_eq]
        omega
      rw [lead?, if_neg notTwo, if_neg (by omega), if_neg (by omega), if_pos three,
        Nat.add_sub_cancel_left]

/-- The first byte of four, and the bounds that the second one keeps. -/
theorem exists_lead?_four
    {code : Nat}
    (lower : 0x10000 ≤ code)
    (upper : code < 0x110000) :
    ∃ low high, lead? (0xf0 + code / 0x40000) = some (3, code / 0x40000, low, high) ∧
      low ≤ 0x80 + code / 0x1000 % 0x40 ∧ 0x80 + code / 0x1000 % 0x40 ≤ high := by
  have bounded : code / 0x40000 < 5 := by omega
  by_cases lowest : code / 0x40000 = 0
  · rw [lowest]
    exact ⟨0x90, 0xbf, rfl, by omega, by omega⟩
  · by_cases highest : code / 0x40000 = 4
    · rw [highest]
      exact ⟨0x80, 0x8f, rfl, by omega, by omega⟩
    · refine ⟨0x80, 0xbf, ?_, by omega, by omega⟩
      have middle : code / 0x40000 = 1 ∨ code / 0x40000 = 2 ∨ code / 0x40000 = 3 := by omega
      rcases middle with one | two | three
      · rw [one]
        rfl
      · rw [two]
        rfl
      · rw [three]
        rfl

/-- A character is read back from its bytes, whatever follows them. -/
theorem exists_next_encodeChar (character : Char) (rest : List UInt8) :
    ∃ byte more, encodeChar character ++ rest = byte :: more ∧
      next byte more = (some character, rest) := by
  have valid := toNat_valid character
  have back : Char.ofNat character.toNat = character := Char.ofNat_toNat character
  dsimp only [encodeChar]
  generalize character.toNat = code at valid back
  split
  · rename_i one
    refine ⟨UInt8.ofNat code, rest, rfl, ?_⟩
    rw [next, toNat_ofNat_of_lt (by omega), if_pos one, back]
  · split
    · refine ⟨_, UInt8.ofNat (0x80 + code % 0x40) :: rest, rfl, ?_⟩
      rw [next_of_lead (by omega) (by omega) (lead?_two (by omega) (by omega)),
        continueFrom_succ (by omega) (by omega) (by omega), continueFrom]
      have whole : code / 0x40 * 0x40 + (0x80 + code % 0x40 - 0x80) = code := by omega
      rw [whole, Option.map_some, back]
    · split
      · obtain ⟨low, high, lead, lower, upper⟩ :=
          @exists_lead?_three code (by omega) (by omega) (by omega)
        refine ⟨_, UInt8.ofNat (0x80 + code / 0x40 % 0x40) :: UInt8.ofNat (0x80 + code % 0x40) ::
          rest, rfl, ?_⟩
        rw [next_of_lead (by omega) (by omega) lead, continueFrom_succ (by omega) lower upper,
          continueFrom_succ (by omega) (by omega) (by omega), continueFrom]
        have whole : (code / 0x1000 * 0x40 + (0x80 + code / 0x40 % 0x40 - 0x80)) * 0x40 +
            (0x80 + code % 0x40 - 0x80) = code := by omega
        rw [whole, Option.map_some, back]
      · obtain ⟨low, high, lead, lower, upper⟩ :=
          @exists_lead?_four code (by omega) (by omega)
        refine ⟨_, UInt8.ofNat (0x80 + code / 0x1000 % 0x40) ::
          UInt8.ofNat (0x80 + code / 0x40 % 0x40) :: UInt8.ofNat (0x80 + code % 0x40) :: rest,
          rfl, ?_⟩
        rw [next_of_lead (by omega) (by omega) lead, continueFrom_succ (by omega) lower upper,
          continueFrom_succ (by omega) (by omega) (by omega),
          continueFrom_succ (by omega) (by omega) (by omega), continueFrom]
        have whole : ((code / 0x40000 * 0x40 + (0x80 + code / 0x1000 % 0x40 - 0x80)) * 0x40 +
            (0x80 + code / 0x40 % 0x40 - 0x80)) * 0x40 + (0x80 + code % 0x40 - 0x80) = code := by
          omega
        rw [whole, Option.map_some, back]

/-- The pieces of the bytes of a text are its characters. -/
theorem pieces_encode (text : Text) : pieces (encode text) = text.map some := by
  induction text with
  | nil => rw [encode_nil, pieces, List.map_nil]
  | cons character text ih =>
      obtain ⟨byte, more, bytes, first⟩ := exists_next_encodeChar character (encode text)
      rw [encode_cons, bytes, pieces, first, ih, List.map_cons]

/-- A text is read back from its bytes. -/
theorem decode?_encode (text : Text) : decode? (encode text) = some text := by
  rw [decode?, pieces_encode]
  induction text with
  | nil => rfl
  | cons character text ih =>
      rw [List.map_cons, List.foldr_cons, ih]
      rfl

end Utf8

namespace Percent

theorem hexValue_hexDigit {value : Nat} (small : value < 16) :
    Text.hexValue (hexDigit value) = value := by
  have digits : ∀ value : Fin 16, Text.hexValue (hexDigit value) = value := by decide
  exact digits ⟨value, small⟩

/-- A byte is read back from its escape, whatever follows it. -/
theorem decode_escapeByte_append (byte : UInt8) (rest : Text) :
    decode (escapeByte byte ++ rest) = byte :: decode rest := by
  have bounded : byte.toNat < 256 := byte.toNat_lt
  have high := @isHexDigit_hexDigit (byte.toNat / 16) (by omega)
  have low := @isHexDigit_hexDigit (byte.toNat % 16) (by omega)
  have whole : byte.toNat / 16 * 16 + byte.toNat % 16 = byte.toNat := by omega
  simp only [escapeByte, List.cons_append, List.nil_append, decode]
  rw [if_pos (by rw [high, low]; rfl), hexValue_hexDigit (by omega), hexValue_hexDigit (by omega),
    whole, UInt8.ofNat_toNat]

/-- The bytes of a character are read back from its escapes. -/
theorem decode_escapeChar_append (character : Char) (rest : Text) :
    decode (escapeChar character ++ rest) = Utf8.encodeChar character ++ decode rest := by
  rw [escapeChar]
  induction Utf8.encodeChar character with
  | nil => rfl
  | cons byte bytes ih =>
      rw [List.flatMap_cons, List.append_assoc, decode_escapeByte_append, ih, List.cons_append]

/-- A character that begins no escape stands for its bytes. -/
theorem decode_cons {character : Char} {rest : Text}
    (noEscape : character ≠ '%' ∨ beginsWithDigits rest = false) :
    decode (character :: rest) = Utf8.encodeChar character ++ decode rest := by
  rw [decode.eq_def]
  split
  · rename_i empty
    cases empty
  · rename_i high low others equal
    injection equal with sign behind
    subst sign
    subst behind
    exact if_neg (Bool.eq_false_iff.mp (noEscape.resolve_left (not_not_intro rfl)))
  · rename_i equal
    injection equal with same behind
    rw [same, behind]

/-- An escape stands for a byte. -/
theorem decode_escape {high low : Char} {rest : Text}
    (digits : beginsWithDigits (high :: low :: rest) = true) :
    decode ('%' :: high :: low :: rest) =
      UInt8.ofNat (Text.hexValue high * 16 + Text.hexValue low) :: decode rest := by
  rw [decode]
  exact if_pos digits

end Percent

namespace Uri
namespace Component

/-- The bytes of a character are read back from what is written for it in a component. -/
theorem decode_encodeChar_append (component : Component) (character : Char) (rest : Text) :
    Percent.decode (component.encodeChar character ++ rest) =
      Utf8.encodeChar character ++ Percent.decode rest := by
  rw [encodeChar]
  split
  · rename_i allowed
    exact Percent.decode_cons (.inl (ne_percent_of_allows allowed))
  · exact Percent.decode_escapeChar_append character rest

/-- The bytes of a value are read back from what is written for it in a component. -/
theorem decode_encode (component : Component) (value : Text) :
    Percent.decode (component.encode value) = Utf8.encode value := by
  induction value with
  | nil => rfl
  | cons character value ih =>
      rw [encode_cons, Utf8.encode_cons, decode_encodeChar_append, ih]

/-- A text is read as the same bytes after it was written with its escapes kept. -/
theorem decode_encodeLiteral (component : Component) (text : Text) :
    Percent.decode (component.encodeLiteral text) = Percent.decode text := by
  induction text using encodeLiteral_induction with
  | nil => rfl
  | escape high low rest digits ih =>
      have kept : Percent.beginsWithDigits (high :: low :: component.encodeLiteral rest) = true :=
        digits
      rw [encodeLiteral_escape digits, Percent.decode_escape digits, Percent.decode_escape kept, ih]
  | cons character rest noEscape ih =>
      rw [encodeLiteral_cons noEscape, decode_encodeChar_append, Percent.decode_cons noEscape, ih]

end Component
end Uri
end ResourceRouting
