import ResourceRouting.Proofs.Resolution.Binding
import ResourceRouting.Proofs.Uri.Decoding
import ResourceRouting.Text.Scalar

/-!
# Decimal numbers in a path

A number that is written in decimal digits stands in a path as it is, and is read back.
-/

namespace ResourceRouting

namespace Text

theorem isDigit_of_mem_decimal {number : Nat} {digit : Char} (present : digit ∈ decimal number) :
    digit.isDigit = true :=
  Nat.isDigit_of_mem_toDigits (by decide) (by decide) present

theorem decimal_ne_nil (number : Nat) : decimal number ≠ [] :=
  Nat.toDigits_ne_nil

/-- A character that is no digit does not occur in a number. -/
theorem not_mem_decimal {character : Char} (other : character.isDigit = false) (number : Nat) :
    character ∉ decimal number := by
  intro present
  rw [isDigit_of_mem_decimal present] at other
  cases other

theorem ofDecimal_decimal (number : Nat) : ofDecimal (decimal number) = number := by
  have steps : (fun value (digit : Char) => value * 10 + (digit.toNat - 48)) =
      fun value digit => 10 * value + (digit.toNat - '0'.toNat) := by
    funext value digit
    rw [Nat.mul_comm]
    rfl
  rw [ofDecimal, steps]
  exact Nat.ofDigitChars_toDigits (by decide) (by decide)

/-- A number is read back, unless it is too great. -/
theorem natural?_decimal {number limit : Nat} (small : number ≤ limit) :
    natural? limit (decimal number) = some number := by
  have read : digits? (decimal number) = some number := by
    rw [digits?, if_pos, ofDecimal_decimal]
    simpa [decimal_ne_nil] using fun digit => isDigit_of_mem_decimal
  have minus := not_mem_decimal (show '-'.isDigit = false by decide) number
  have plus := not_mem_decimal (show '+'.isDigit = false by decide) number
  have unsigned : splitSign (decimal number) = (false, decimal number) := by
    rw [splitSign.eq_def]
    split
    · rename_i begins
      exact absurd (by simp [begins]) minus
    · rename_i begins
      exact absurd (by simp [begins]) plus
    · rfl
  rw [natural?.eq_def]
  split
  · rename_i begins
    exact absurd (by simp [begins]) minus
  · rw [unsigned, read, Option.filter_some, if_pos (decide_eq_true small)]

end Text

namespace Uri.Component

/-- A number stands in a path as it is. -/
theorem encode_path_decimal (number : Nat) :
    path.encode (Text.decimal number) = Text.decimal number := by
  have digits := @Text.isDigit_of_mem_decimal number
  generalize Text.decimal number = text at digits
  induction text with
  | nil => rfl
  | cons digit rest ih =>
      have isDigit := digits (List.mem_cons_self ..)
      have allowed : path.allows digit = true := by
        simp [allows, isUnreserved, Char.isAlphanum, isDigit]
      rw [encode_cons, encodeChar, if_pos allowed,
        ih fun present => digits (List.mem_cons_of_mem _ present)]
      rfl

end Uri.Component

/-- A number in a path stands for itself, whether path parameters are decoded or not. -/
theorem Resolution.decodeValue_decimal (decode : Bool) (number : Nat) :
    decodeValue decode (Text.decimal number) = some (Text.decimal number) := by
  rw [decodeValue]
  split
  · have read := Uri.Component.decode_encode .path (Text.decimal number)
    rw [Uri.Component.encode_path_decimal] at read
    rw [read, Utf8.decode?_encode]
  · rfl

end ResourceRouting
