import AmigaRemote.Text.Basic

/-! Strings and whole numbers as TOML writes them. A reader takes them from the front of a text and
returns what is left. -/

namespace AmigaRemote.Toml

/-- A reader of something at the front of a text. -/
abbrev Reads (α : Type) := Text → Option (α × Text)

/-- Space and tabulator. -/
def isBlank (c : Char) : Bool :=
  c = ' ' || c = '\t'

/-- Whether a character may stand on a line. Of the control characters only the tabulator may. -/
def isVisible (c : Char) : Bool :=
  c = '\t' || (0x20 ≤ c.toNat && c.toNat ≠ 0x7F)

/-- The text without blanks at its front. -/
def dropBlanks (t : Text) : Text :=
  t.dropWhile isBlank

/-- What follows a line end. -/
def afterNewline? : Text → Option Text
  | '\n' :: rest => some rest
  | '\r' :: '\n' :: rest => some rest
  | _ => none

/-- The value of a digit to a base, if it is one. -/
def digit? (base : Nat) (c : Char) : Option Nat :=
  let n :=
    if c.isDigit then c.toNat - '0'.toNat
    else if c.isAlpha then c.toLower.toNat - 'a'.toNat + 10
    else base
  if n < base then some n else none

/-- The character whose number is written with these digits to base sixteen. -/
def charOfDigits? (digits : Text) : Option Char := do
  let values ← digits.mapM (digit? 16)
  let n := values.foldl (fun n d => n * 16 + d) 0
  -- The numbers of surrogates are no characters.
  if n.isValidChar then some (Char.ofNat n) else none

/-- What the letter after a backslash stands for. -/
def escaped? : Char → Option Char
  | 'b' => some '\x08'
  | 't' => some '\t'
  | 'n' => some '\n'
  | 'f' => some '\x0c'
  | 'r' => some '\r'
  | '"' => some '"'
  | '\\' => some '\\'
  | _ => none

/-- The rest of a string in double quotes on one line. What was read is at hand, last one first. -/
def quoted (read : Text) : Reads Text
  | '"' :: rest => some (read.reverse, rest)
  | '\\' :: 'u' :: a :: b :: c :: d :: rest => do
    quoted ((← charOfDigits? [a, b, c, d]) :: read) rest
  | '\\' :: 'U' :: a :: b :: c :: d :: e :: f :: g :: h :: rest => do
    quoted ((← charOfDigits? [a, b, c, d, e, f, g, h]) :: read) rest
  | '\\' :: c :: rest => do quoted ((← escaped? c) :: read) rest
  | c :: rest => if isVisible c then quoted (c :: read) rest else none
  | [] => none

/-- A string ended by three quotes. Up to two more before them belong to it. -/
def endBlock (quote : Char) (read rest : Text) : Text × Text :=
  -- Of three quotes and more the last three are the end.
  let more := (rest.take 2).takeWhile (· = quote)
  (read.reverse ++ more, rest.drop more.length)

/-- The rest of a string in three double quotes. A backslash at the end of a line takes the white
space that follows away with it, which is what `folding` says. -/
def quotedBlock (folding : Bool) (read : Text) : Reads Text
  | '"' :: '"' :: '"' :: rest => some (endBlock '"' read rest)
  | '\r' :: '\n' :: rest | '\n' :: rest =>
    -- Either line end is read as the plain one.
    quotedBlock folding (if folding then read else '\n' :: read) rest
  | '\\' :: 'u' :: a :: b :: c :: d :: rest => do
    quotedBlock false ((← charOfDigits? [a, b, c, d]) :: read) rest
  | '\\' :: 'U' :: a :: b :: c :: d :: e :: f :: g :: h :: rest => do
    quotedBlock false ((← charOfDigits? [a, b, c, d, e, f, g, h]) :: read) rest
  | '\\' :: c :: rest =>
    -- What stands behind the backslash on its line is white space too.
    if (afterNewline? (dropBlanks (c :: rest))).isSome then quotedBlock true read rest
    else do quotedBlock false ((← escaped? c) :: read) rest
  | c :: rest =>
    if folding ∧ isBlank c then quotedBlock true read rest
    else if isVisible c then quotedBlock false (c :: read) rest
    else none
  | [] => none

/-- The rest of a string in three single quotes. Nothing in it is special. -/
def literalBlock (read : Text) : Reads Text
  | '\'' :: '\'' :: '\'' :: rest => some (endBlock '\'' read rest)
  | '\r' :: '\n' :: rest | '\n' :: rest => literalBlock ('\n' :: read) rest
  | c :: rest => if isVisible c then literalBlock (c :: read) rest else none
  | [] => none

/-- The rest of a string in single quotes on one line. -/
def literal (t : Text) : Option (Text × Text) :=
  match t.span (· ≠ '\'') with
  | (inside, _ :: rest) => if inside.all isVisible then some (inside, rest) else none
  | (_, []) => none

/-- A string on one line, in either kind of quotes. -/
def lineString : Reads Text
  | '"' :: rest => quoted [] rest
  | '\'' :: rest => literal rest
  | _ => none

/-- A string of any form. A line end right after three quotes is no part of it. -/
def string : Reads Text
  | '"' :: '"' :: '"' :: rest => quotedBlock false [] ((afterNewline? rest).getD rest)
  | '\'' :: '\'' :: '\'' :: rest => literalBlock [] ((afterNewline? rest).getD rest)
  | t => lineString t

/-- The number with these digits to a base. Single underscores may stand between digits. -/
def unsigned? (base : Nat) (digits : Text) : Option Nat := do
  -- An underscore without a digit on either side leaves an empty group.
  let groups := digits.fields '_'
  if groups.any (· = []) then none
  let values ← groups.flatten.mapM (digit? base)
  return values.foldl (fun n d => n * base + d) 0

/-- A whole number to base ten without needless zeros. -/
def decimal? (digits : Text) : Option Int :=
  -- A zero in front is refused, with or without an underscore behind it.
  if digits.head? = some '0' ∧ digits ≠ ['0'] then none
  else (unsigned? 10 digits).map Int.ofNat

/-- A whole number of sixty-four bits. A sign goes with base ten only. -/
def integer? (word : Text) : Option Int :=
  let n? := match word with
    | '0' :: 'x' :: digits => (unsigned? 16 digits).map Int.ofNat
    | '0' :: 'o' :: digits => (unsigned? 8 digits).map Int.ofNat
    | '0' :: 'b' :: digits => (unsigned? 2 digits).map Int.ofNat
    | '+' :: digits => decimal? digits
    | '-' :: digits => (decimal? digits).map Int.neg
    | digits => decimal? digits
  n?.filter fun n => Int64.minValue.toInt ≤ n ∧ n ≤ Int64.maxValue.toInt

/-- Whether a character may belong to a number or to another value without quotes. -/
def isWordLetter (c : Char) : Bool :=
  c.isAlphanum || c ∈ ['_', '+', '-', '.', ':']

/-- A whole number, with all that is written together with it. -/
def integer (t : Text) : Option (Int × Text) :=
  (integer? (t.takeWhile isWordLetter)).map fun n => (n, t.dropWhile isWordLetter)

end AmigaRemote.Toml
