import AmigaRemote.Text.Basic

/-! Payload lines. A line that is a single dot ends the payload, so every payload line that begins
with a dot travels with one more. -/

namespace AmigaRemote.Line

/-- The byte that ends a line. -/
def feed : UInt8 := 10

/-- The byte that may stand before the end of a line and is no part of it. -/
def carriageReturn : UInt8 := 13

/-- The most bytes a line may have. -/
def maxLength : Nat := 1024 * 1024

/-- The line that ends a response. -/
def sentinel : Text := ['.']

/-- A payload line as it is sent. -/
def stuff (line : Text) : Text :=
  match line with
  -- Doubled whatever follows, for else a line that begins with two dots would lose one.
  | '.' :: _ => '.' :: line
  | _ => line

/-- A payload line as it was meant. Only a doubled dot stands for one dot. -/
def unstuff (line : Text) : Text :=
  match line with
  -- A dot on its own has no partner to lose.
  | '.' :: '.' :: rest => '.' :: rest
  | _ => line

end AmigaRemote.Line
