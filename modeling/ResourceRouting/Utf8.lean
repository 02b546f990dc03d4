import ResourceRouting.Text

/-!
# UTF-8

The bytes of a text, and the text of some bytes.  Bytes that are no text are read with a
replacement character for every maximal part of a character that is broken off.
-/

namespace ResourceRouting
namespace Utf8

/-- The bytes of a character. -/
def encodeChar (character : Char) : List UInt8 :=
  let code := character.toNat
  if code < 0x80 then
    [UInt8.ofNat code]
  else if code < 0x800 then
    [UInt8.ofNat (0xc0 + code / 0x40), UInt8.ofNat (0x80 + code % 0x40)]
  else if code < 0x10000 then
    [UInt8.ofNat (0xe0 + code / 0x1000), UInt8.ofNat (0x80 + code / 0x40 % 0x40),
      UInt8.ofNat (0x80 + code % 0x40)]
  else
    [UInt8.ofNat (0xf0 + code / 0x40000), UInt8.ofNat (0x80 + code / 0x1000 % 0x40),
      UInt8.ofNat (0x80 + code / 0x40 % 0x40), UInt8.ofNat (0x80 + code % 0x40)]

/-- No character is without bytes. -/
theorem encodeChar_ne_nil (character : Char) : encodeChar character ≠ [] := by
  dsimp only [encodeChar]
  split
  · exact List.cons_ne_nil _ _
  · split
    · exact List.cons_ne_nil _ _
    · split <;> exact List.cons_ne_nil _ _

/-- The bytes of a text. -/
def encode (text : Text) : List UInt8 :=
  text.flatMap encodeChar

@[simp]
theorem encode_nil : encode [] = [] := rfl

@[simp]
theorem encode_cons (character : Char) (text : Text) :
    encode (character :: text) = encodeChar character ++ encode text := rfl

@[simp]
theorem encode_append (first second : Text) :
    encode (first ++ second) = encode first ++ encode second := by
  simp [encode]

/--
What the first byte of a character says of the others: the number of bytes that follow, the
bits of the code point that it holds, and the bounds of the second byte.
-/
def lead? (byte : Nat) : Option (Nat × Nat × Nat × Nat) :=
  if 0xc2 ≤ byte && byte ≤ 0xdf then some (1, byte - 0xc0, 0x80, 0xbf)
  else if byte = 0xe0 then some (2, 0, 0xa0, 0xbf)
  else if byte = 0xed then some (2, 0xd, 0x80, 0x9f)
  else if 0xe1 ≤ byte && byte ≤ 0xef then some (2, byte - 0xe0, 0x80, 0xbf)
  else if byte = 0xf0 then some (3, 0, 0x90, 0xbf)
  else if 0xf1 ≤ byte && byte ≤ 0xf3 then some (3, byte - 0xf0, 0x80, 0xbf)
  else if byte = 0xf4 then some (3, 4, 0x80, 0x8f)
  else none

/--
Reads `count` bytes that go on with a character, the first of them between the bounds.  The
result is the code point, or nothing if a byte is missing, and the bytes that are left.
-/
def continueFrom :
    (count code low high : Nat) → List UInt8 → Option Nat × List UInt8
  | 0, code, _, _, bytes => (some code, bytes)
  | _ + 1, _, _, _, [] => (none, [])
  | count + 1, code, low, high, byte :: rest =>
      if low ≤ byte.toNat && byte.toNat ≤ high then
        continueFrom count (code * 0x40 + (byte.toNat - 0x80)) 0x80 0xbf rest
      else
        (none, byte :: rest)

/-- Reading the rest of a character adds no bytes. -/
theorem length_continueFrom
    (count code low high : Nat)
    (bytes : List UInt8) :
    (continueFrom count code low high bytes).2.length ≤ bytes.length := by
  induction count generalizing code low high bytes with
  | zero => simp [continueFrom]
  | succ count ih =>
      cases bytes with
      | nil => simp [continueFrom]
      | cons byte rest =>
          simp only [continueFrom]
          split
          · exact Nat.le_trans (ih _ _ _ rest) (Nat.le_succ _)
          · exact Nat.le_refl _

/-- Reads one character or one broken part from bytes that begin with the given one. -/
def next (byte : UInt8) (rest : List UInt8) : Option Char × List UInt8 :=
  if byte.toNat < 0x80 then
    (some (Char.ofNat byte.toNat), rest)
  else
    match lead? byte.toNat with
    | none => (none, rest)
    | some (count, code, low, high) =>
        let (found, after) := continueFrom count code low high rest
        (found.map Char.ofNat, after)

/-- Reading a character adds no bytes. -/
theorem length_next (byte : UInt8) (rest : List UInt8) :
    (next byte rest).2.length ≤ rest.length := by
  unfold next
  split
  · exact Nat.le_refl _
  · split
    · exact Nat.le_refl _
    · exact length_continueFrom _ _ _ _ rest

/-- The characters of some bytes in order, with nothing in place of each broken part. -/
def pieces : List UInt8 → List (Option Char)
  | [] => []
  | byte :: rest =>
      have := length_next byte rest
      (next byte rest).1 :: pieces (next byte rest).2
termination_by bytes => bytes.length

/-- The text of some bytes, if they are the UTF-8 form of one. -/
def decode? (bytes : List UInt8) : Option Text :=
  (pieces bytes).foldr (fun piece text => piece.bind fun character => text.map (character :: ·))
    (some [])

/-- The text of some bytes, with a replacement character for each broken part. -/
def decodeLossy (bytes : List UInt8) : Text :=
  (pieces bytes).map fun piece => piece.getD '\ufffd'

end Utf8
end ResourceRouting
