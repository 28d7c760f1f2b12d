import AmigaRemote.Text.Case
import AmigaRemote.Text.PrintableTable

/-! Quoted form of texts and characters in messages: what cannot be seen is written as an escape. -/

namespace AmigaRemote.Quoted

/-- The digits of a number to base sixteen, in small letters. -/
def hexDigits (n : Nat) : Text :=
  Nat.toDigits 16 n

/-- A character within quotes. Only the quote in use is escaped. -/
def escape (quote c : Char) : Text :=
  match c with
  | '\x00' => ['\\', '0']
  | '\t' => ['\\', 't']
  | '\r' => ['\\', 'r']
  | '\n' => ['\\', 'n']
  | '\\' => ['\\', '\\']
  | c =>
    -- The other kind of quote ends nothing and stays as it is.
    if c = quote then ['\\', c]
    -- The number stands in braces, so that digits may follow it.
    else if inRanges invisibleRanges c.toNat ∨ inRanges extendingRanges c.toNat then
      ['\\', 'u', '\x7b'] ++ hexDigits c.toNat ++ ['\x7d']
    else [c]

/-- A text in double quotes. -/
def text (t : Text) : Text :=
  '"' :: t.flatMap (escape '"') ++ ['"']

/-- A character in single quotes. -/
def char (c : Char) : Text :=
  '\'' :: escape '\'' c ++ ['\'']

end AmigaRemote.Quoted
