import AmigaRemote.Text.Basic

/-! Whole numbers in decimal. A reader takes plain digits after an optional sign, any number of
leading zeros, and refuses what does not fit. -/

namespace AmigaRemote.Decimal

/-- The digits of a number. -/
def ofNat (n : Nat) : Text :=
  Nat.toDigits 10 n

/-- The digits of a number, after a minus if it is negative. -/
def ofInt : Int → Text
  | .ofNat n => ofNat n
  | .negSucc n => '-' :: ofNat (n + 1)

/-- The value of a text of digits alone, at least one of them. -/
def digits? (t : Text) : Option Nat :=
  if t ≠ [] ∧ t.all Char.isDigit then some (Nat.ofDigitChars 10 t 0) else none

/-- A number up to `greatest`, which a plus may precede. -/
def nat? (greatest : Nat) (t : Text) : Option Nat :=
  -- A sign without digits is left to the reader of digits, which refuses it.
  let n? := match t with
    | '+' :: rest => digits? rest
    | rest => digits? rest
  n?.filter (· ≤ greatest)

/-- A number from `least` to `greatest`, which a plus or a minus may precede. -/
def int? (least greatest : Int) (t : Text) : Option Int :=
  -- The bounds are looked at last, so a zero may have a minus where zero is in bounds.
  let n? : Option Int := match t with
    | '+' :: rest => (digits? rest).map Int.ofNat
    | '-' :: rest => (digits? rest).map fun n => -(n : Int)
    | rest => (digits? rest).map Int.ofNat
  n?.filter fun n => least ≤ n ∧ n ≤ greatest

/-- A number of sixteen bits. -/
def uint16? (t : Text) : Option UInt16 :=
  (nat? (UInt16.size - 1) t).map UInt16.ofNat

/-- A number of thirty-two bits. -/
def uint32? (t : Text) : Option UInt32 :=
  (nat? (UInt32.size - 1) t).map UInt32.ofNat

/-- A number of sixty-four bits. -/
def uint64? (t : Text) : Option UInt64 :=
  (nat? (UInt64.size - 1) t).map UInt64.ofNat

/-- A signed number of thirty-two bits. -/
def int32? (t : Text) : Option Int32 :=
  (int? Int32.minValue.toInt Int32.maxValue.toInt t).map Int32.ofInt

end AmigaRemote.Decimal
