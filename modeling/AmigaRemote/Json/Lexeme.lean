import AmigaRemote.Json.Value

/-! The marks and plain values that make up the text of a JSON document. -/

namespace AmigaRemote

/-- One piece of a document's text. -/
inductive Lexeme where
  /-- A bracket, a comma or a colon. -/
  | mark (c : Char)
  /-- A word, a number or a string. -/
  | plain (value : JsonValue)

namespace Lexeme

/-- One element of a string: a character, or the number of a sixteen-bit unit in an escape. -/
inductive Element where
  | char (c : Char)
  | unit (n : Nat)

/-- The text of a string's elements. Two units that make up one character must stand together. -/
def assemble : List Element → Option Text
  | [] => some []
  | .char c :: rest => (assemble rest).map (c :: ·)
  | .unit high :: .unit low :: rest =>
    -- Two halves in the right order make one character.
    if 0xD800 ≤ high ∧ high < 0xDC00 ∧ 0xDC00 ≤ low ∧ low < 0xE000 then
      let c := Char.ofNat (0x10000 + (high - 0xD800) * 0x400 + (low - 0xDC00))
      (assemble rest).map (c :: ·)
    else if 0xD800 ≤ high ∧ high < 0xE000 then none
    else (assemble (.unit low :: rest)).map (Char.ofNat high :: ·)
  | .unit n :: rest =>
    if 0xD800 ≤ n ∧ n < 0xE000 then none else (assemble rest).map (Char.ofNat n :: ·)

/-- What the letter after a backslash stands for. -/
def escaped? : Char → Option Char
  | '"' => some '"'
  | '\\' => some '\\'
  | '/' => some '/'
  | 'b' => some '\x08'
  | 'f' => some '\x0c'
  | 'n' => some '\n'
  | 'r' => some '\r'
  | 't' => some '\t'
  | _ => none

/-- Where within a piece the text stands. -/
inductive Scan where
  /-- Between two pieces. -/
  | between
  /-- In a word or a number. Its characters are at hand, last one first. -/
  | word (letters : Text)
  /-- In a string. Its elements are at hand, last one first. -/
  | string (elements : List Element)
  /-- After a backslash in a string. -/
  | escape (elements : List Element)
  /-- Among the four digits of a unit, with the value of those before and how many are missing. -/
  | unit (elements : List Element) (value missing : Nat)

/-- The value of a digit to base sixteen. -/
def hexValue? (c : Char) : Option Nat :=
  if c.isDigit then some (c.toNat - '0'.toNat)
  else if 'a' ≤ c ∧ c ≤ 'f' then some (c.toNat - 'a'.toNat + 10)
  else if 'A' ≤ c ∧ c ≤ 'F' then some (c.toNat - 'A'.toNat + 10)
  else none

/-- Whether digits alone follow, at least one of them. -/
def isDigits (t : Text) : Bool :=
  t ≠ [] ∧ t.all Char.isDigit

/-- Whether the rest of a number is an exponent or nothing. -/
def isExponent : Text → Bool
  | [] => true
  | c :: '+' :: rest => (c = 'e' || c = 'E') && isDigits rest
  | c :: '-' :: rest => (c = 'e' || c = 'E') && isDigits rest
  | c :: rest => (c = 'e' || c = 'E') && isDigits rest

/-- Whether the rest of a number is a fraction and an exponent, either of which may be missing. -/
def isFraction : Text → Bool
  | '.' :: rest =>
    rest.head?.any Char.isDigit && isExponent (rest.dropWhile Char.isDigit)
  | rest => isExponent rest

/-- Whether the text is a number: a minus, digits without needless zeros, then the rest. -/
def isNumber (t : Text) : Bool :=
  -- A minus is the only sign.
  let unsigned := (t.after? ['-']).getD t
  match unsigned with
  | '0' :: rest => isFraction rest
  | rest => rest.head?.any Char.isDigit && isFraction (rest.dropWhile Char.isDigit)

/-- The value of a word. -/
def ofWord? (word : Text) : Option JsonValue :=
  if word = "null".toList then some .null
  else if word = "true".toList then some (.bool true)
  else if word = "false".toList then some (.bool false)
  else if isNumber word then some (.number word)
  else none

/-- Whether a character may belong to a word or a number. -/
def isWordLetter (c : Char) : Bool :=
  c.isAlphanum || c = '+' || c = '-' || c = '.'

/-- The beginning of a piece, or a mark, or white space. -/
def start (done : List Lexeme) (c : Char) : Option (List Lexeme × Scan) :=
  if c = ' ' ∨ c = '\t' ∨ c = '\n' ∨ c = '\r' then some (done, .between)
  else if c ∈ ['[', ']', '\x7b', '\x7d', ',', ':'] then some (.mark c :: done, .between)
  else if c = '"' then some (done, .string [])
  else if isWordLetter c then some (done, .word [c])
  else none

/-- One character further, with the pieces already complete, last one first. -/
def step (done : List Lexeme) (scan : Scan) (c : Char) : Option (List Lexeme × Scan) :=
  match scan with
  | .between => start done c
  | .word letters =>
    if isWordLetter c then some (done, .word (c :: letters))
    -- Nothing marks the end of a word but the character behind it.
    else (ofWord? letters.reverse).bind fun value => start (.plain value :: done) c
  | .string elements =>
    if c = '"' then
      -- Half a character is no failure yet. It matters only where a text is wanted.
      let value := ((assemble elements.reverse).map JsonValue.string).getD .halved
      some (.plain value :: done, .between)
    else if c = '\\' then some (done, .escape elements)
    -- Line ends and other controls have to be escaped.
    else if c.toNat < 0x20 then none
    else some (done, .string (.char c :: elements))
  | .escape elements =>
    if c = 'u' then some (done, .unit elements 0 4)
    else (escaped? c).map fun meant => (done, .string (.char meant :: elements))
  | .unit elements value missing =>
    (hexValue? c).map fun digit =>
      let value := value * 16 + digit
      if missing ≤ 1 then (done, .string (.unit value :: elements))
      else (done, .unit elements value (missing - 1))

/-- The pieces of a text. -/
def ofText? (text : Text) : Option (List Lexeme) := do
  -- A string or an escape without an end is refused, and a word may end with the text.
  let (done, scan) ← text.foldlM (fun (done, scan) c => step done scan c) ([], .between)
  match scan with
  | .between => return done.reverse
  | .word letters => return ((.plain (← ofWord? letters.reverse)) :: done).reverse
  | _ => none

end Lexeme

end AmigaRemote
