import AmigaRemote.Text.Utf8
import AmigaRemote.Wire.Error

/-! The encodings in which texts travel. -/

namespace AmigaRemote

/-- The encoding of texts on the wire. -/
inductive Encoding where
  /-- ISO-8859-1: every byte is the character of the same value. -/
  | latin1
  | utf8
  deriving DecidableEq, Repr, Inhabited

namespace Encoding

/-- The text of bytes that arrived. No bytes are refused. -/
def decode : Encoding → Bytes → Text
  | latin1, bytes => bytes.map fun b => Char.ofNat b.toNat
  | utf8, bytes => Utf8.decode bytes

/-- The bytes of a text to be sent. The first character without a byte is reported. -/
def encode : Encoding → Text → Except WireError Bytes
  | latin1, text =>
    -- Only the first 256 characters have a byte.
    match text.find? fun c => 0xFF < c.toNat with
    | some c => .error (.unencodable c)
    | none => .ok (text.map fun c => UInt8.ofNat c.toNat)
  | utf8, text => .ok (Utf8.encode text)

/-- The name an encoding is written with. -/
def name : Encoding → Text
  | latin1 => "iso-8859-1".toList
  | utf8 => "utf-8".toList

/-- The encoding that is written with exactly this name, of several in use. -/
def ofName? (name : Text) : Option Encoding :=
  if name = "iso-8859-1".toList ∨ name = "latin1".toList ∨ name = "latin-1".toList then
    some .latin1
  else if name = "utf-8".toList ∨ name = "utf8".toList then some .utf8
  else none

/-- The encoding with this name in letters of any case. -/
def parse (name : Text) : Except WireError Encoding :=
  -- The name is reported as it was given, not in small letters.
  match ofName? name.toSmall with
  | some encoding => .ok encoding
  | none => .error (.invalidArgument (.unknownEncoding name))

end Encoding

end AmigaRemote
