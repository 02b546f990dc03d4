import ResourceRouting.Proofs.Uri.Encoding

/-!
# Legal text in a component

A text is legal in a component if it consists of characters that the component allows and of
escapes.  What is encoded for a component is legal in it, whether escapes are kept or not, and so
is what passes its check.
-/

namespace ResourceRouting
namespace Uri

namespace Component

/-- A text of characters that a component allows and of escapes. -/
inductive IsLegal (component : Component) : Text → Prop
  /-- Nothing is legal everywhere. -/
  | nil : IsLegal component []
  /-- An allowed character stands for itself. -/
  | allowed
      {character : Char}
      {rest : Text}
      (allowed : component.allows character = true)
      (others : IsLegal component rest) :
      IsLegal component (character :: rest)
  /-- An escape is a percent sign and two digits. -/
  | escape
      {high low : Char}
      {rest : Text}
      (highDigit : Text.isHexDigit high = true)
      (lowDigit : Text.isHexDigit low = true)
      (others : IsLegal component rest) :
      IsLegal component ('%' :: high :: low :: rest)

/-- Whether a component allows no more than another one. -/
def IsWithin (first second : Component) : Prop :=
  ∀ character, first.allows character = true → second.allows character = true

theorem IsWithin.refl (component : Component) : component.IsWithin component :=
  fun _ allowed => allowed

variable {component first second : Component}

theorem IsLegal.append
    {front rest : Text}
    (frontLegal : component.IsLegal front)
    (legal : component.IsLegal rest) :
    component.IsLegal (front ++ rest) := by
  induction frontLegal with
  | nil => exact legal
  | allowed allowed _ ih => exact .allowed allowed ih
  | escape highDigit lowDigit _ ih => exact .escape highDigit lowDigit ih

/-- What is legal in a component is legal where no less is allowed. -/
theorem IsLegal.mono
    {text : Text}
    (legal : first.IsLegal text)
    (within : first.IsWithin second) :
    second.IsLegal text := by
  induction legal with
  | nil => exact .nil
  | allowed allowed _ ih => exact .allowed (within _ allowed) ih
  | escape highDigit lowDigit _ ih => exact .escape highDigit lowDigit ih

/-- The characters of a legal text are allowed or belong to escapes. -/
theorem IsLegal.of_mem
    {text : Text}
    (legal : component.IsLegal text)
    {character : Char}
    (present : character ∈ text) :
    character = '%' ∨ component.allows character = true ∨ Text.isHexDigit character = true := by
  induction legal with
  | nil => cases present
  | allowed allowed _ ih =>
      rcases List.mem_cons.mp present with rfl | later
      · exact .inr (.inl allowed)
      · exact ih later
  | escape highDigit lowDigit _ ih =>
      simp only [List.mem_cons] at present
      rcases present with sign | rfl | rfl | later
      · exact .inl sign
      · exact .inr (.inr highDigit)
      · exact .inr (.inr lowDigit)
      · exact ih later

/-- A character that is neither allowed nor part of an escape does not occur in a legal text. -/
theorem IsLegal.not_mem
    {text : Text}
    (legal : component.IsLegal text)
    {character : Char}
    (refused : component.allows character = false)
    (notPercent : character ≠ '%')
    (notDigit : Text.isHexDigit character = false) :
    character ∉ text := by
  intro present
  rcases legal.of_mem present with sign | allowed | digit
  · exact notPercent sign
  · rw [refused] at allowed
    cases allowed
  · rw [notDigit] at digit
    cases digit

/-- Where the digits of escapes are allowed, only percent signs need not be. -/
theorem IsLegal.allows_of_mem
    {text : Text}
    (legal : component.IsLegal text)
    (other : component ≠ .port)
    {character : Char}
    (present : character ∈ text) :
    character = '%' ∨ component.allows character = true :=
  (legal.of_mem present).imp_right fun reason =>
    reason.elim id (allows_of_isHexDigit other)

theorem IsLegal.lt_of_mem
    {text : Text}
    (legal : component.IsLegal text)
    {character : Char}
    (present : character ∈ text) :
    character.toNat < 128 := by
  rcases legal.of_mem present with rfl | allowed | digit
  · decide
  · exact lt_of_allows allowed
  · exact Text.lt_of_isHexDigit digit

theorem IsLegal.of_cons
    {character : Char}
    {rest : Text}
    (allowed : component.allows character = true)
    (legal : component.IsLegal (character :: rest)) :
    component.IsLegal rest := by
  cases legal with
  | allowed _ others => exact others
  | escape _ _ _ => exact absurd rfl (ne_percent_of_allows allowed)

theorem IsLegal.of_escape
    {high low : Char}
    {rest : Text}
    (legal : component.IsLegal ('%' :: high :: low :: rest)) :
    component.IsLegal rest := by
  cases legal with
  | allowed sign _ => exact absurd rfl (ne_percent_of_allows sign)
  | escape _ _ others => exact others

/-- A legal text goes on legally after any legal beginning. -/
theorem IsLegal.of_append
    {front rest : Text}
    (frontLegal : component.IsLegal front)
    (legal : component.IsLegal (front ++ rest)) :
    component.IsLegal rest := by
  induction frontLegal with
  | nil => exact legal
  | allowed allowed _ ih => exact ih (legal.of_cons allowed)
  | escape _ _ _ ih => exact ih legal.of_escape

theorem isLegal_escapeByte (byte : UInt8) : component.IsLegal (Percent.escapeByte byte) := by
  have bounded : byte.toNat < 256 := byte.toNat_lt
  exact .escape (Percent.isHexDigit_hexDigit (by omega)) (Percent.isHexDigit_hexDigit (by omega))
    .nil

theorem isLegal_encodeChar (character : Char) :
    component.IsLegal (component.encodeChar character) := by
  unfold encodeChar
  split
  · rename_i allowed
    exact .allowed allowed .nil
  · rw [Percent.escapeChar]
    induction Utf8.encodeChar character with
    | nil => exact .nil
    | cons byte bytes ih =>
        rw [List.flatMap_cons]
        exact (isLegal_escapeByte byte).append ih

/-- What is encoded for a component is legal in it. -/
theorem isLegal_encode (value : Text) : component.IsLegal (component.encode value) := by
  induction value with
  | nil => exact .nil
  | cons character value ih =>
      rw [encode_cons]
      exact (isLegal_encodeChar character).append ih

theorem newline_not_mem_encode_path (value : Text) : '\n' ∉ path.encode value :=
  (isLegal_encode value).not_mem (by decide) (by decide) (by decide)

/-- What is written when escapes are kept is legal. -/
theorem isLegal_encodeLiteral (text : Text) : component.IsLegal (component.encodeLiteral text) := by
  induction text using encodeLiteral_induction with
  | nil => exact .nil
  | escape high low rest digits ih =>
      obtain ⟨highDigit, lowDigit⟩ := Bool.and_eq_true_iff.mp digits
      rw [encodeLiteral_escape digits]
      exact .escape highDigit lowDigit ih
  | cons character rest noEscape ih =>
      rw [encodeLiteral_cons noEscape]
      exact (isLegal_encodeChar character).append ih

theorem newline_not_mem_encodeLiteral_path (text : Text) : '\n' ∉ path.encodeLiteral text :=
  (isLegal_encodeLiteral text).not_mem (by decide) (by decide) (by decide)

/-- A legal text is written as it is. -/
theorem IsLegal.encodeLiteral_eq {text : Text} (legal : component.IsLegal text) :
    component.encodeLiteral text = text := by
  induction legal with
  | nil => rfl
  | allowed allowed _ ih =>
      rw [encodeLiteral_cons (.inl (ne_percent_of_allows allowed)), ih, encodeChar, if_pos allowed,
        List.singleton_append]
  | escape highDigit lowDigit _ ih =>
      rw [encodeLiteral_escape (Bool.and_eq_true_iff.mpr ⟨highDigit, lowDigit⟩), ih]

/-- A value in which no character is found to be illegal begins with a legal one. -/
theorem illegal?_cons_eq_none_iff {character : Char} {rest : Text} :
    component.illegal? (character :: rest) = none ↔
      (component.allows character = true ∨
        character = '%' ∧ Percent.beginsWithDigits rest = true) ∧
        component.illegal? rest = none := by
  have checked : (component.allows character ||
      (character = '%' && Percent.beginsWithDigits rest)) = true ↔
        component.allows character = true ∨
          character = '%' ∧ Percent.beginsWithDigits rest = true := by
    simp
  rw [illegal?, ← checked]
  split
  · rename_i legal
    simp [legal]
  · rename_i illegal
    simp [illegal]

/-- A value in which no character is found to be illegal is legal. -/
theorem isLegal_of_illegal? {value : Text} (checked : component.illegal? value = none) :
    component.IsLegal value := by
  induction length : value.length using Nat.strongRecOn generalizing value with
  | ind length ih =>
      subst length
      match value with
      | [] => exact .nil
      | character :: rest =>
          obtain ⟨allowed | ⟨rfl, digits⟩, others⟩ := illegal?_cons_eq_none_iff.mp checked
          · exact .allowed allowed (ih _ (by simp) others rfl)
          -- The check goes on with the digits of an escape, which are more than one step shorter.
          · obtain ⟨high, low, behind, rfl, highDigit, lowDigit⟩ :=
              Percent.exists_of_beginsWithDigits digits
            have further := (illegal?_cons_eq_none_iff.mp others).2
            have last := (illegal?_cons_eq_none_iff.mp further).2
            refine .escape highDigit lowDigit (ih _ ?_ last rfl)
            simp only [List.length_cons]
            omega

/-- A value that passes the check of a component passes that of one that allows no less. -/
theorem illegal?_eq_none_mono
    (within : first.IsWithin second)
    {value : Text}
    (checked : first.illegal? value = none) :
    second.illegal? value = none := by
  induction value with
  | nil => rfl
  | cons character rest ih =>
      obtain ⟨own, others⟩ := illegal?_cons_eq_none_iff.mp checked
      exact illegal?_cons_eq_none_iff.mpr ⟨own.imp_left (within _), ih others⟩

end Component

end Uri
end ResourceRouting
