import ResourceRouting.Uri.Component

/-!
# Encoding

What a text becomes when it is written in a component.  A text whose escapes are kept can be cut at
every slash, since no escape reaches over one, and no mark is written for another character.
-/

namespace ResourceRouting
namespace Percent

theorem isHexDigit_hexDigit {value : Nat} (small : value < 16) :
    Text.isHexDigit (hexDigit value) = true := by
  have digits : ∀ value : Fin 16, Text.isHexDigit (hexDigit value) = true := by decide
  exact digits ⟨value, small⟩

/-- An escape consists of a percent sign and two digits. -/
theorem exists_of_mem_escapeChar {character written : Char}
    (present : written ∈ escapeChar character) :
    written = '%' ∨ ∃ value < 16, written = hexDigit value := by
  obtain ⟨byte, _, inEscape⟩ := List.mem_flatMap.mp present
  have bounded : byte.toNat < 256 := byte.toNat_lt
  simp only [escapeByte, List.mem_cons, List.not_mem_nil, or_false] at inEscape
  rcases inEscape with sign | high | low
  · exact .inl sign
  · exact .inr ⟨byte.toNat / 16, by omega, high⟩
  · exact .inr ⟨byte.toNat % 16, by omega, low⟩

theorem exists_of_beginsWithDigits {text : Text} (digits : beginsWithDigits text = true) :
    ∃ high low rest, text = high :: low :: rest ∧
      Text.isHexDigit high = true ∧ Text.isHexDigit low = true := by
  match text with
  | [] => cases digits
  | [_] => cases digits
  | high :: low :: rest => exact ⟨high, low, rest, rfl, Bool.and_eq_true_iff.mp digits⟩

/-- A text goes on with two digits or not, whatever follows a slash. -/
theorem beginsWithDigits_append_slash (text rest : Text) :
    beginsWithDigits (text ++ '/' :: rest) = beginsWithDigits text := by
  have noDigit : Text.isHexDigit '/' = false := by decide
  match text with
  | [] =>
      cases rest with
      | nil => rfl
      | cons next others => simp [beginsWithDigits, noDigit]
  | [only] => simp [beginsWithDigits, noDigit]
  | _ :: _ :: _ => rfl

end Percent

namespace Text

/-- The codes of letters and digits. -/
theorem isAlphanum_iff {character : Char} :
    character.isAlphanum = true ↔
      ((65 ≤ character.toNat ∧ character.toNat ≤ 90) ∨
        (97 ≤ character.toNat ∧ character.toNat ≤ 122)) ∨
        (48 ≤ character.toNat ∧ character.toNat ≤ 57) := by
  delta Char.isAlphanum Char.isAlpha Char.isUpper Char.isLower Char.isDigit
  simp only [Bool.or_eq_true, Bool.and_eq_true, decide_eq_true_eq, ge_iff_le,
    UInt32.le_iff_toNat_le]
  rfl

theorem isAlphanum_of_isHexDigit {character : Char} (digit : isHexDigit character = true) :
    character.isAlphanum = true := by
  simp only [isHexDigit, Char.isDigit, Bool.or_eq_true, Bool.and_eq_true, decide_eq_true_eq,
    Char.le_def, ge_iff_le, UInt32.le_iff_toNat_le] at digit
  have value : character.toNat = character.val.toNat := rfl
  have letters : 'a'.val.toNat = 97 ∧ 'f'.val.toNat = 102 := ⟨rfl, rfl⟩
  have capitals : 'A'.val.toNat = 65 ∧ 'F'.val.toNat = 70 := ⟨rfl, rfl⟩
  have decimals : '0'.val.toNat = 48 ∧ '9'.val.toNat = 57 := ⟨rfl, rfl⟩
  rw [isAlphanum_iff]
  omega

theorem lt_of_isHexDigit {digit : Char} (isDigit : isHexDigit digit = true) :
    digit.toNat < 128 := by
  have alphanumeric := isAlphanum_of_isHexDigit isDigit
  rw [isAlphanum_iff] at alphanumeric
  omega

theorem ne_percent_of_isHexDigit {digit : Char} (isDigit : isHexDigit digit = true) :
    digit ≠ '%' := by
  rintro rfl
  cases isDigit

end Text

namespace Uri
namespace Component

/-- Characters that a component allows are ASCII characters. -/
theorem lt_of_allows
    {component : Component}
    {character : Char}
    (allowed : component.allows character = true) :
    character.toNat < 128 := by
  have alphanumeric : character.isAlphanum = true → character.toNat < 128 := by
    rw [Text.isAlphanum_iff]
    omega
  have oneOf : ∀ {marks : List Char}, marks.all (·.toNat < 128) = true →
      marks.contains character = true → character.toNat < 128 := fun ascii present =>
    of_decide_eq_true (List.all_eq_true.mp ascii _ (List.contains_iff_mem.mp present))
  have unreserved : isUnreserved character = true → character.toNat < 128 := fun holds =>
    (Bool.or_eq_true _ _ ▸ holds).elim alphanumeric (oneOf rfl)
  cases component <;>
    simp only [allows, Bool.or_eq_true, decide_eq_true_eq] at allowed
  case scheme => exact allowed.elim alphanumeric (oneOf rfl)
  case port => exact alphanumeric (by simp [Char.isAlphanum, allowed])
  case userInfo =>
    rcases allowed with (plain | delimiter) | rfl
    · exact unreserved plain
    · exact oneOf rfl delimiter
    · decide
  all_goals
    rcases allowed with (plain | delimiter) | mark
    · exact unreserved plain
    · exact oneOf rfl delimiter
    · exact oneOf rfl mark

/-- A percent sign is never written as it is. -/
theorem ne_percent_of_allows
    {component : Component}
    {character : Char}
    (allowed : component.allows character = true) :
    character ≠ '%' := by
  rintro rfl
  have escaped : ∀ component : Component, component.allows '%' = false := by
    rintro (_ | _ | _ | _ | _ | _ | _ | _) <;> decide
  rw [escaped] at allowed
  cases allowed

/-- A text that begins no escape is written character by character. -/
theorem encodeLiteral_cons {component : Component} {character : Char} {rest : Text}
    (noEscape : character ≠ '%' ∨ Percent.beginsWithDigits rest = false) :
    component.encodeLiteral (character :: rest) =
      component.encodeChar character ++ component.encodeLiteral rest := by
  rw [encodeLiteral.eq_def]
  split
  · rename_i empty
    cases empty
  · rename_i high low others equal
    injection equal with sign behind
    subst sign
    subst behind
    exact if_neg (Bool.eq_false_iff.mp (noEscape.resolve_left (not_not_intro rfl)))
  · rename_i equal
    injection equal with same behind
    rw [same, behind]

theorem encodeLiteral_escape {component : Component} {high low : Char} {rest : Text}
    (digits : Percent.beginsWithDigits (high :: low :: rest) = true) :
    component.encodeLiteral ('%' :: high :: low :: rest) =
      '%' :: high :: low :: component.encodeLiteral rest := by
  rw [encodeLiteral]
  exact if_pos digits

/-- The beginning of a text: nothing, an escape, or a character that begins none. -/
theorem encodeLiteral_induction
    {motive : Text → Prop}
    (text : Text)
    (nil : motive [])
    (escape : ∀ high low rest, Percent.beginsWithDigits (high :: low :: rest) = true →
      motive rest → motive ('%' :: high :: low :: rest))
    (cons : ∀ character rest, character ≠ '%' ∨ Percent.beginsWithDigits rest = false →
      motive rest → motive (character :: rest)) :
    motive text := by
  induction text using encodeLiteral.induct with
  | case1 => exact nil
  | case2 high low rest digits ih => exact escape high low rest digits ih
  | case3 high low rest noDigits ih =>
      exact cons '%' _ (.inr (Bool.eq_false_iff.mpr noDigits)) ih
  | case4 character rest noEscape ih =>
      refine cons character rest ?_ ih
      by_cases sign : character = '%'
      · right
        match rest with
        | [] => rfl
        | [_] => rfl
        | high :: low :: others => exact absurd rfl (noEscape high low others sign)
      · exact .inl sign

/-- Every slash of a text stays where it is and divides what is written. -/
theorem encodeLiteral_append_slash (first rest : Text) :
    path.encodeLiteral (first ++ '/' :: rest) =
      path.encodeLiteral first ++ '/' :: path.encodeLiteral rest := by
  induction first using encodeLiteral_induction with
  | nil =>
      rw [List.nil_append, encodeLiteral_cons (.inl (by decide))]
      rfl
  | escape high low others digits ih =>
      have kept : path.encodeLiteral ('%' :: high :: low :: (others ++ '/' :: rest)) =
          '%' :: high :: low :: path.encodeLiteral (others ++ '/' :: rest) :=
        encodeLiteral_escape digits
      rw [List.cons_append, List.cons_append, List.cons_append, kept, ih,
        encodeLiteral_escape digits, List.cons_append, List.cons_append, List.cons_append]
  | cons character others noEscape ih =>
      rw [List.cons_append, encodeLiteral_cons noEscape, encodeLiteral_cons, ih,
        List.append_assoc]
      rwa [Percent.beginsWithDigits_append_slash]

@[simp]
theorem encodeLiteral_slash_cons (rest : Text) :
    path.encodeLiteral ('/' :: rest) = '/' :: path.encodeLiteral rest :=
  encodeLiteral_append_slash [] rest

/-- The digits of escapes are allowed in every component but the port. -/
theorem allows_of_isHexDigit
    {component : Component}
    (other : component ≠ .port)
    {digit : Char}
    (isDigit : Text.isHexDigit digit = true) :
    component.allows digit = true := by
  have alphanumeric := Text.isAlphanum_of_isHexDigit isDigit
  cases component with
  | port => exact absurd rfl other
  | _ => simp [allows, isUnreserved, alphanumeric]

/-- A mark that does not occur in escapes is written for no other character. -/
theorem not_mem_encodeChar
    {component : Component}
    {mark character : Char}
    (notSign : mark ≠ '%')
    (notDigit : Text.isHexDigit mark = false)
    (other : character ≠ mark) :
    mark ∉ component.encodeChar character := by
  intro present
  unfold encodeChar at present
  split at present
  · exact other (List.mem_singleton.mp present).symm
  · rcases Percent.exists_of_mem_escapeChar present with sign | ⟨value, small, digit⟩
    · exact notSign sign
    · rw [digit, Percent.isHexDigit_hexDigit small] at notDigit
      cases notDigit

theorem slash_not_mem_encodeChar {component : Component} {character : Char}
    (other : character ≠ '/') :
    '/' ∉ component.encodeChar character :=
  not_mem_encodeChar (by decide) (by decide) other

theorem slash_not_mem_encodeLiteral {component : Component} {text : Text}
    (segment : '/' ∉ text) :
    '/' ∉ component.encodeLiteral text := by
  induction text using encodeLiteral_induction with
  | nil => exact List.not_mem_nil
  | escape high low rest digits ih =>
      rw [encodeLiteral_escape digits]
      simp only [List.mem_cons, not_or] at segment ⊢
      exact ⟨segment.1, segment.2.1, segment.2.2.1, ih segment.2.2.2⟩
  | cons character rest noEscape ih =>
      rw [encodeLiteral_cons noEscape]
      rw [List.mem_cons, not_or] at segment
      rw [List.mem_append, not_or]
      exact ⟨slash_not_mem_encodeChar (Ne.symm segment.1), ih segment.2⟩

theorem encodeChar_ne_nil (component : Component) (character : Char) :
    component.encodeChar character ≠ [] := by
  unfold encodeChar
  split
  · exact List.cons_ne_nil _ _
  · rw [Percent.escapeChar]
    cases bytes : Utf8.encodeChar character with
    | nil => exact absurd bytes (Utf8.encodeChar_ne_nil character)
    | cons byte others => exact List.cons_ne_nil _ _

theorem slash_not_mem_encode {component : Component} {value : Text} (segment : '/' ∉ value) :
    '/' ∉ component.encode value := by
  intro present
  obtain ⟨character, inValue, inCharacter⟩ := List.mem_flatMap.mp present
  refine slash_not_mem_encodeChar ?_ inCharacter
  rintro rfl
  exact segment inValue

theorem encode_ne_nil {component : Component} {value : Text} (nonempty : value ≠ []) :
    component.encode value ≠ [] := by
  cases value with
  | nil => exact absurd rfl nonempty
  | cons character value =>
      rw [encode_cons]
      exact fun empty => encodeChar_ne_nil component character (List.append_eq_nil_iff.mp empty).1

theorem encodeLiteral_ne_nil {component : Component} {text : Text} (nonempty : text ≠ []) :
    component.encodeLiteral text ≠ [] := by
  induction text using encodeLiteral_induction with
  | nil => exact nonempty
  | escape high low rest digits _ =>
      rw [encodeLiteral_escape digits]
      exact List.cons_ne_nil _ _
  | cons character rest noEscape _ =>
      rw [encodeLiteral_cons noEscape]
      exact fun empty =>
        encodeChar_ne_nil component character (List.append_eq_nil_iff.mp empty).1

/-- What is written for a text ends with a slash only if the text does. -/
theorem getLast?_of_encodeLiteral
    {component : Component}
    {text : Text}
    (ends : (component.encodeLiteral text).getLast? = some '/') :
    text.getLast? = some '/' := by
  -- The last character is what is written for the last character, or it comes from the rest.
  have later : ∀ {first written : Text} {rest : Text},
      (written ++ component.encodeLiteral rest).getLast? = some '/' → '/' ∉ written →
        ((component.encodeLiteral rest).getLast? = some '/' → rest.getLast? = some '/') →
          (first ++ rest).getLast? = some '/' := by
    intro first written rest ends foreign further
    rw [List.getLast?_append] at ends ⊢
    cases last : (component.encodeLiteral rest).getLast? with
    | none =>
        rw [last, Option.none_or] at ends
        exact absurd (List.mem_of_getLast? ends) foreign
    | some character =>
        rw [last, Option.some_or] at ends
        rw [further (last.trans ends), Option.some_or]
  induction text using encodeLiteral_induction with
  | nil => cases ends
  | escape high low rest digits ih =>
      rw [encodeLiteral_escape digits] at ends
      have both : Text.isHexDigit high = true ∧ Text.isHexDigit low = true := by
        simpa [Percent.beginsWithDigits] using digits
      have noDigit : Text.isHexDigit '/' = false := by decide
      have foreign : '/' ∉ ['%', high, low] := by
        simp only [List.mem_cons, List.not_mem_nil, or_false, not_or]
        refine ⟨by decide, ?_, ?_⟩
        · rintro rfl
          rw [noDigit] at both
          cases both.1
        · rintro rfl
          rw [noDigit] at both
          cases both.2
      exact @later ['%', high, low] ['%', high, low] rest ends foreign ih
  | cons character rest noEscape ih =>
      rw [encodeLiteral_cons noEscape] at ends
      by_cases slash : character = '/'
      · subst slash
        cases rest with
        | nil => rfl
        | cons next others =>
            rw [List.getLast?_append] at ends
            rw [List.getLast?_cons_cons]
            apply ih
            cases last : (component.encodeLiteral (next :: others)).getLast? with
            | none =>
                exact absurd (List.getLast?_eq_none_iff.mp last)
                  (encodeLiteral_ne_nil (List.cons_ne_nil _ _))
            | some character =>
                rw [last, Option.some_or] at ends
                exact ends
      · exact @later [character] _ rest ends (slash_not_mem_encodeChar slash) ih

end Component
end Uri
end ResourceRouting
