import AmigaRemote.Text.Basic

/-! UTF-8. Writing is the standard's; reading gives one replacement character for each malformed
stretch, cut as short as the standard recommends: what is unfinished ends at the first byte that
cannot continue it, and that byte is read anew. -/

namespace AmigaRemote.Utf8

/-- Stands for bytes that are no character. -/
def replacement : Char := '\uFFFD'

/-- The bytes of a text. -/
def encode (text : Text) : Bytes :=
  text.flatMap String.utf8EncodeChar

/-- A character begun but not finished. -/
structure Unfinished where
  /-- Bytes still missing after the next one. -/
  later : Nat
  /-- The least byte that may come next. -/
  least : UInt8
  /-- The greatest byte that may come next. -/
  greatest : UInt8
  /-- The value of the bits read so far. -/
  value : Nat

/-- What a byte is where a character may begin. -/
inductive Start where
  /-- A character of its own. -/
  | whole (c : Char)
  /-- The first byte of a longer character. -/
  | opening (begun : Unfinished)
  /-- A byte no character begins with. -/
  | malformed

/-- Classifies a byte where a character may begin. -/
def Start.ofByte (b : UInt8) : Start :=
  let n := b.toNat
  if n < 0x80 then .whole (Char.ofNat n)
  -- Two bytes: the lead bytes C0 and C1 would only repeat shorter characters.
  else if n < 0xC2 then .malformed
  else if n < 0xE0 then .opening ⟨0, 0x80, 0xBF, n - 0xC0⟩
  -- Three bytes, without repetitions of shorter characters and without surrogates.
  else if n = 0xE0 then .opening ⟨1, 0xA0, 0xBF, 0⟩
  else if n = 0xED then .opening ⟨1, 0x80, 0x9F, 0xD⟩
  else if n < 0xF0 then .opening ⟨1, 0x80, 0xBF, n - 0xE0⟩
  -- Four bytes, up to the last code point.
  else if n = 0xF0 then .opening ⟨2, 0x90, 0xBF, 0⟩
  else if n < 0xF4 then .opening ⟨2, 0x80, 0xBF, n - 0xF0⟩
  else if n = 0xF4 then .opening ⟨2, 0x80, 0x8F, 4⟩
  else .malformed

/-- Reads on from a possibly unfinished character. The characters read so far are at hand, last
one first. -/
def decodeFrom (begun : Option Unfinished) (read : Text) : Bytes → Text
  | [] =>
    -- A character cut off at the end is one malformed stretch.
    (if begun.isSome then replacement :: read else read).reverse
  | b :: rest =>
    match begun with
    | some u =>
      if u.least ≤ b ∧ b ≤ u.greatest then
        -- A byte that continues a character brings six bits.
        let value := u.value * 64 + (b.toNat - 0x80)
        match u.later with
        | 0 => decodeFrom none (Char.ofNat value :: read) rest
        | later + 1 => decodeFrom (some ⟨later, 0x80, 0xBF, value⟩) read rest
      else
        -- The unfinished character ends here and this byte begins anew.
        match Start.ofByte b with
        -- What was begun before it counts as one malformed stretch.
        | .whole c => decodeFrom none (c :: replacement :: read) rest
        | .opening v => decodeFrom (some v) (replacement :: read) rest
        | .malformed => decodeFrom none (replacement :: replacement :: read) rest
    | none =>
      match Start.ofByte b with
      | .whole c => decodeFrom none (c :: read) rest
      | .opening v => decodeFrom (some v) read rest
      | .malformed => decodeFrom none (replacement :: read) rest

/-- The text of a byte string, with the replacement character for each malformed stretch. -/
def decode (bytes : Bytes) : Text :=
  decodeFrom none [] bytes

/-- The text of a byte string that is well formed throughout. -/
def decode? (bytes : Bytes) : Option Text :=
  -- Only malformed bytes are not written back as they were.
  let text := decode bytes
  if encode text = bytes then some text else none

end AmigaRemote.Utf8
