import ResourceRouting.Proofs.Uri.Bytes

/-!
# Where the check of a value stops

Text is read in a component as allowed characters and escapes.  The check of a value goes through
its characters and judges the digits of an escape once more by themselves.  All components but the
port allow them, so that there the check agrees with the reading: it accepts what is encoded and
all other legal text, and it stops where no reading goes on.  The port allows no letter, and an
escape with a letter is refused there.
-/

namespace ResourceRouting

namespace Text

theorem isAlpha_eq_false_of_isDigit {character : Char} (digit : character.isDigit = true) :
    character.isAlpha = false := by
  rw [Char.isDigit_iff_toNat] at digit
  have bounds : '0'.toNat = 48 ∧ '9'.toNat = 57 := ⟨rfl, rfl⟩
  rw [Bool.eq_false_iff]
  intro letter
  delta Char.isAlpha Char.isUpper Char.isLower at letter
  simp only [Bool.or_eq_true, Bool.and_eq_true, decide_eq_true_eq, ge_iff_le,
    UInt32.le_iff_toNat_le] at letter
  change (65 ≤ character.toNat ∧ character.toNat ≤ 90) ∨
    (97 ≤ character.toNat ∧ character.toNat ≤ 122) at letter
  omega

theorem isAlpha_eq_not_isDigit {character : Char} (alphanumeric : character.isAlphanum = true) :
    character.isAlpha = !character.isDigit := by
  cases digit : character.isDigit with
  | true => exact isAlpha_eq_false_of_isDigit digit
  | false => simpa [Char.isAlphanum, digit] using alphanumeric

end Text

namespace Uri
namespace Component

/-- A beginning of a text is legal in a component, and no beginning that reaches further is. -/
structure IsLegalUpTo (component : Component) (front rest : Text) : Prop where
  /-- The beginning is legal. -/
  legal : component.IsLegal front
  /-- It cannot be continued with what follows. -/
  longest : ∀ more behind, rest = more ++ behind → component.IsLegal (front ++ more) → more = []

/-- Whether a character of a legal text is refused by the check. -/
def refuses (component : Component) (character : Char) : Bool :=
  character ≠ '%' && !component.allows character

variable {component : Component}

/-- A reading stops at a character that is not allowed and begins no escape. -/
theorem isLegalUpTo_cons_iff {front behind : Text} {character : Char} :
    component.IsLegalUpTo front (character :: behind) ↔
      component.IsLegal front ∧ component.allows character = false ∧
        (character ≠ '%' ∨ Percent.beginsWithDigits behind = false) := by
  constructor
  · intro stops
    refine ⟨stops.legal, ?_, ?_⟩
    · rw [Bool.eq_false_iff]
      intro allowed
      have further := stops.longest [character] behind rfl
        (stops.legal.append (.allowed allowed .nil))
      cases further
    · by_cases sign : character = '%'
      · right
        rw [Bool.eq_false_iff]
        intro digits
        subst sign
        obtain ⟨high, low, others, rfl, highDigit, lowDigit⟩ :=
          Percent.exists_of_beginsWithDigits digits
        have further := stops.longest ['%', high, low] others rfl
          (stops.legal.append (.escape highDigit lowDigit .nil))
        cases further
      · exact .inl sign
  · rintro ⟨frontLegal, refused, noEscape⟩
    refine ⟨frontLegal, fun more others equal legal => ?_⟩
    cases more with
    | nil => rfl
    | cons first more =>
        injection equal with same behindEqual
        subst same
        cases frontLegal.of_append legal with
        | allowed allowed _ =>
            rw [refused] at allowed
            cases allowed
        | escape highDigit lowDigit _ =>
            have digits : Percent.beginsWithDigits behind = true := by
              rw [behindEqual]
              exact Bool.and_eq_true_iff.mpr ⟨highDigit, lowDigit⟩
            rw [noEscape.resolve_left (not_not_intro rfl)] at digits
            cases digits

/-- A text is legal, or a reading stops at one of its characters. -/
theorem isLegal_or_exists_isLegalUpTo (component : Component) (text : Text) :
    component.IsLegal text ∨ ∃ front character behind, text = front ++ character :: behind ∧
      component.IsLegalUpTo front (character :: behind) := by
  induction text using encodeLiteral_induction with
  | nil => exact .inl .nil
  | escape high low rest digits ih =>
      obtain ⟨highDigit, lowDigit⟩ := Bool.and_eq_true_iff.mp digits
      rcases ih with legal | ⟨front, character, behind, rfl, stops⟩
      · exact .inl (.escape highDigit lowDigit legal)
      · obtain ⟨frontLegal, stuck⟩ := isLegalUpTo_cons_iff.mp stops
        exact .inr ⟨'%' :: high :: low :: front, character, behind, rfl,
          isLegalUpTo_cons_iff.mpr ⟨.escape highDigit lowDigit frontLegal, stuck⟩⟩
  | cons character rest noEscape ih =>
      by_cases allowed : component.allows character = true
      · rcases ih with legal | ⟨front, further, behind, rfl, stops⟩
        · exact .inl (.allowed allowed legal)
        · obtain ⟨frontLegal, stuck⟩ := isLegalUpTo_cons_iff.mp stops
          exact .inr ⟨character :: front, further, behind, rfl,
            isLegalUpTo_cons_iff.mpr ⟨.allowed allowed frontLegal, stuck⟩⟩
      · exact .inr ⟨[], character, rest, rfl,
          isLegalUpTo_cons_iff.mpr ⟨.nil, Bool.eq_false_iff.mpr allowed, noEscape⟩⟩

theorem illegal?_cons_of_allows {character : Char} {rest : Text}
    (allowed : component.allows character = true) :
    component.illegal? (character :: rest) = component.illegal? rest := by
  rw [illegal?, allowed, Bool.true_or, if_pos rfl]

theorem refuses_eq_false_of_allows {character : Char}
    (allowed : component.allows character = true) :
    component.refuses character = false := by
  rw [refuses, allowed, Bool.not_true, Bool.and_false]

/-- A digit is passed over or refused, like any character other than a percent sign. -/
theorem illegal?_cons_of_ne {character : Char} (other : character ≠ '%') (rest : Text) :
    component.illegal? (character :: rest) =
      if component.refuses character then some character else component.illegal? rest := by
  by_cases allowed : component.allows character = true
  · rw [illegal?_cons_of_allows allowed, refuses_eq_false_of_allows allowed, if_neg nofun]
  · simp [illegal?, refuses, allowed, other]

/-- The check finds the first refused digit of a legal beginning, or goes on behind it. -/
theorem IsLegal.illegal?_append
    {front : Text}
    (legal : component.IsLegal front)
    (rest : Text) :
    component.illegal? (front ++ rest) =
      (front.find? component.refuses).or (component.illegal? rest) := by
  induction legal with
  | nil => rfl
  | allowed allowed _ ih =>
      rw [List.cons_append, illegal?_cons_of_allows allowed, ih,
        List.find?_cons_of_neg (Bool.eq_false_iff.mp (refuses_eq_false_of_allows allowed))]
  | @escape high low others highDigit lowDigit _ ih =>
      have digits : Percent.beginsWithDigits (high :: low :: (others ++ rest)) = true :=
        Bool.and_eq_true_iff.mpr ⟨highDigit, lowDigit⟩
      have sign : component.illegal? ('%' :: high :: low :: (others ++ rest)) =
          component.illegal? (high :: low :: (others ++ rest)) := by
        rw [illegal?, digits]
        simp
      rw [List.cons_append, List.cons_append, List.cons_append, sign,
        illegal?_cons_of_ne (Text.ne_percent_of_isHexDigit highDigit),
        illegal?_cons_of_ne (Text.ne_percent_of_isHexDigit lowDigit), ih,
        List.find?_cons_of_neg (by simp [refuses]), List.find?_cons, List.find?_cons]
      cases component.refuses high with
      | true => rfl
      | false =>
          cases component.refuses low with
          | true => rfl
          | false => rfl

theorem IsLegal.illegal?_eq_find? {text : Text} (legal : component.IsLegal text) :
    component.illegal? text = text.find? component.refuses := by
  have checked := legal.illegal?_append []
  rwa [List.append_nil, illegal?, Option.or_none] at checked

/-- The check stops where a reading does, unless it refuses a digit in front of that. -/
theorem IsLegalUpTo.illegal?_append
    {front behind : Text}
    {character : Char}
    (stops : component.IsLegalUpTo front (character :: behind)) :
    component.illegal? (front ++ character :: behind) =
      (front.find? component.refuses).or (some character) := by
  obtain ⟨legal, refused, noEscape⟩ := isLegalUpTo_cons_iff.mp stops
  have stuck : component.illegal? (character :: behind) = some character := by
    rcases noEscape with other | none
    · simp [illegal?, refused, other]
    · simp [illegal?, refused, none]
  rw [legal.illegal?_append, stuck]

/-- A digit of an escape is refused exactly if it is a letter and stands in a port. -/
theorem refuses_of_isHexDigit {digit : Char} (isDigit : Text.isHexDigit digit = true) :
    component.refuses digit = (component == .port && digit.isAlpha) := by
  by_cases isPort : component = .port
  · subst isPort
    rw [Text.isAlpha_eq_not_isDigit (Text.isAlphanum_of_isHexDigit isDigit)]
    simp [refuses, allows, Text.ne_percent_of_isHexDigit isDigit]
  · rw [refuses_eq_false_of_allows (allows_of_isHexDigit isPort isDigit)]
    simp [isPort]

/-- The characters that the check refuses in a legal text are the letters in a port. -/
theorem IsLegal.refuses_eq
    {text : Text}
    (legal : component.IsLegal text)
    {character : Char}
    (present : character ∈ text) :
    component.refuses character = (component == .port && character.isAlpha) := by
  rcases legal.of_mem present with rfl | allowed | digit
  · simp [refuses]
  · rw [refuses_eq_false_of_allows allowed]
    cases component with
    | port => exact (Text.isAlpha_eq_false_of_isDigit allowed).symm
    | _ => rfl
  · exact refuses_of_isHexDigit digit

theorem IsLegal.find?_refuses_eq_none_iff {text : Text} (legal : component.IsLegal text) :
    text.find? component.refuses = none ↔
      component ≠ .port ∨ ∀ character ∈ text, character.isAlpha = false := by
  rw [List.find?_eq_none]
  constructor
  · intro accepted
    by_cases isPort : component = .port
    · refine .inr fun character present => ?_
      have holds := accepted character present
      rw [legal.refuses_eq present, isPort] at holds
      exact Bool.eq_false_iff.mpr holds
    · exact .inl isPort
  · intro spared character present
    rw [legal.refuses_eq present]
    rcases spared with elsewhere | noLetter
    · simp [elsewhere]
    · simp [noLetter character present]

/-- A value passes the check if it is legal and no letter stands in an escape of a port. -/
theorem illegal?_eq_none_iff {text : Text} :
    component.illegal? text = none ↔
      component.IsLegal text ∧
        (component ≠ .port ∨ ∀ character ∈ text, character.isAlpha = false) := by
  constructor
  · intro checked
    have legal := isLegal_of_illegal? checked
    rw [legal.illegal?_eq_find?] at checked
    exact ⟨legal, legal.find?_refuses_eq_none_iff.mp checked⟩
  · rintro ⟨legal, spared⟩
    rw [legal.illegal?_eq_find?]
    exact legal.find?_refuses_eq_none_iff.mpr spared

/-- The first character of a legal text that is refused is its first letter, in a port. -/
theorem IsLegal.find?_refuses_eq_some_iff
    {text : Text}
    (legal : component.IsLegal text)
    {character : Char} :
    text.find? component.refuses = some character ↔
      component = .port ∧ character.isAlpha = true ∧
        ∃ front more, text = front ++ character :: more ∧
          ∀ other ∈ front, other.isAlpha = false := by
  rw [List.find?_eq_some_iff_append]
  constructor
  · rintro ⟨refused, front, more, rfl, accepted⟩
    rw [legal.refuses_eq (by simp), Bool.and_eq_true, beq_iff_eq] at refused
    refine ⟨refused.1, refused.2, front, more, rfl, fun other present => ?_⟩
    have holds := accepted other present
    rw [legal.refuses_eq (List.mem_append_left _ present), refused.1] at holds
    simpa using holds
  · rintro ⟨isPort, letter, front, more, rfl, noLetter⟩
    refine ⟨?_, front, more, rfl, fun other present => ?_⟩
    · rw [legal.refuses_eq (by simp), letter, isPort]
      rfl
    · rw [legal.refuses_eq (List.mem_append_left _ present), noLetter other present,
        Bool.and_false]
      rfl

/--
The check stops at the first character at which a reading stops or that is, in a port, a letter of
an escape.
-/
theorem illegal?_eq_some_iff {text : Text} {character : Char} :
    component.illegal? text = some character ↔
      ∃ front behind, text = front ++ character :: behind ∧
        (component ≠ .port ∨ ∀ other ∈ front, other.isAlpha = false) ∧
        (component.IsLegalUpTo front (character :: behind) ∨
          component = .port ∧ character.isAlpha = true ∧
            ∃ more rest, behind = more ++ rest ∧
              component.IsLegal (front ++ character :: more)) := by
  constructor
  · intro found
    rcases isLegal_or_exists_isLegalUpTo component text with
      legal | ⟨legalFront, last, behind, rfl, stops⟩
    · rw [legal.illegal?_eq_find?, legal.find?_refuses_eq_some_iff] at found
      obtain ⟨isPort, letter, front, more, rfl, noLetter⟩ := found
      exact ⟨front, more, rfl, .inr noLetter,
        .inr ⟨isPort, letter, more, [], (List.append_nil more).symm, legal⟩⟩
    · rw [stops.illegal?_append, Option.or_eq_some_iff] at found
      rcases found with refused | ⟨accepted, same⟩
      · obtain ⟨isPort, letter, front, more, rfl, noLetter⟩ :=
          stops.legal.find?_refuses_eq_some_iff.mp refused
        exact ⟨front, more ++ last :: behind, by simp, .inr noLetter,
          .inr ⟨isPort, letter, more, last :: behind, rfl, stops.legal⟩⟩
      · cases same
        exact ⟨legalFront, behind, rfl, stops.legal.find?_refuses_eq_none_iff.mp accepted,
          .inl stops⟩
  · rintro ⟨front, behind, rfl, spared, stops | ⟨isPort, letter, more, rest, rfl, legal⟩⟩
    · rw [stops.illegal?_append, stops.legal.find?_refuses_eq_none_iff.mpr spared, Option.none_or]
    · have noLetter := spared.resolve_left (not_not_intro isPort)
      have refused := legal.find?_refuses_eq_some_iff.mpr
        ⟨isPort, letter, front, more, rfl, noLetter⟩
      rw [← List.cons_append, ← List.append_assoc, legal.illegal?_append, refused, Option.some_or]

theorem isAlpha_hexDigit {value : Nat} (small : value < 16) :
    (Percent.hexDigit value).isAlpha = decide (10 ≤ value) := by
  have digits : ∀ value : Fin 16,
      (Percent.hexDigit value).isAlpha = decide (10 ≤ value.val) := by
    decide
  exact digits ⟨value, small⟩

/-- What is written for a byte in a port is free of letters if its hexadecimal digits are. -/
theorem isAlpha_encodeByte_port_iff (byte : UInt8) :
    (∀ character ∈ Component.port.encodeByte byte, character.isAlpha = false) ↔
      byte.toNat / 16 < 10 ∧ byte.toNat % 16 < 10 := by
  have bounded : byte.toNat < 256 := byte.toNat_lt
  rw [encodeByte]
  split
  · rename_i allowed
    have digit : (Char.ofNat byte.toNat).isDigit = true := allowed
    have code := Char.isDigit_iff_toNat.mp digit
    rw [Text.toNat_ofNat_byte] at code
    have bounds : '0'.toNat = 48 ∧ '9'.toNat = 57 := ⟨rfl, rfl⟩
    simp only [List.mem_singleton, forall_eq, Text.isAlpha_eq_false_of_isDigit digit, true_iff]
    omega
  · have sign : '%'.isAlpha = false := rfl
    simp only [Percent.escapeByte, List.mem_cons, List.not_mem_nil, or_false, forall_eq_or_imp,
      forall_eq, sign, true_and, isAlpha_hexDigit (show byte.toNat / 16 < 16 by omega),
      isAlpha_hexDigit (show byte.toNat % 16 < 16 by omega), decide_eq_false_iff_not, Nat.not_le]

/-- What is encoded passes the check, unless a port has to hold a byte with a letter as digit. -/
theorem illegal?_encode_eq_none_iff {value : Text} :
    component.illegal? (component.encode value) = none ↔
      component ≠ .port ∨
        ∀ byte ∈ Utf8.encode value, byte.toNat / 16 < 10 ∧ byte.toNat % 16 < 10 := by
  rw [illegal?_eq_none_iff]
  by_cases isPort : component = .port
  · subst isPort
    simp only [isLegal_encode, true_and, ne_eq, not_true_eq_false, false_or]
    rw [encode_eq_flatMap, List.forall_mem_flatMap]
    exact forall₂_congr fun byte _ => isAlpha_encodeByte_port_iff byte
  · simp [isLegal_encode, isPort]

/--
Encoding, decoding and checking agree in every component, except for letters in the escapes of a
port.  A value is read back from what is written for it.  What is written passes the check, unless
the component is the port and a byte of the value has a letter among its hexadecimal digits.  A
text passes exactly if its bytes are allowed ones and escapes, and no letter stands in a port.
Otherwise the check tells the first character at which no reading goes on or that is a letter of an
escape in a port.
-/
theorem encode_illegal?_decode_agree (component : Component) (value text : Text) :
    (Percent.decode (component.encode value) = Utf8.encode value ∧
      Utf8.decode? (Percent.decode (component.encode value)) = some value) ∧
      (component.illegal? (component.encode value) = none ↔
        component ≠ .port ∨
          ∀ byte ∈ Utf8.encode value, byte.toNat / 16 < 10 ∧ byte.toNat % 16 < 10) ∧
      (component.illegal? text = none ↔
        component.IsLegalBytes (Utf8.encode text) ∧
          (component ≠ .port ∨ ∀ character ∈ text, character.isAlpha = false)) ∧
      ∀ character, component.illegal? text = some character ↔
        ∃ front behind, text = front ++ character :: behind ∧
          (component ≠ .port ∨ ∀ other ∈ front, other.isAlpha = false) ∧
          (component.IsLegalUpTo front (character :: behind) ∨
            component = .port ∧ character.isAlpha = true ∧
              ∃ more rest, behind = more ++ rest ∧
                component.IsLegal (front ++ character :: more)) := by
  have decoded := decode_encode component value
  refine ⟨⟨decoded, ?_⟩, illegal?_encode_eq_none_iff, ?_, fun _ => illegal?_eq_some_iff⟩
  · rw [decoded, Utf8.decode?_encode]
  · rw [isLegalBytes_encode_iff]
    exact illegal?_eq_none_iff

/-- The escape that is written for a letter in a port is well-formed, and refused for its digit. -/
theorem port_refuses_encoded :
    Component.port.encode "j".toList = "%6A".toList ∧
      Component.port.IsLegalBytes (Utf8.encode "%6A".toList) ∧
      Component.port.illegal? "%6A".toList = some 'A' := by
  have written : Component.port.encode "j".toList = "%6A".toList := by decide +kernel
  refine ⟨written, ?_, by decide +kernel⟩
  rw [← written]
  exact (isLegal_encode "j".toList).encode

end Component
end Uri
end ResourceRouting
