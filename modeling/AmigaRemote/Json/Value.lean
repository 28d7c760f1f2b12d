import AmigaRemote.Text.Decimal

/-! JSON documents, and their texts on one line or over several. -/

namespace AmigaRemote

/-- A JSON document. -/
inductive JsonValue where
  | null
  | bool (value : Bool)
  /-- A number as it is written. -/
  | number (literal : Text)
  | string (text : Text)
  /-- A string in which an escape gives half a character, or an object that has such a name. -/
  | halved
  | array (items : List JsonValue)
  | object (members : List (Text × JsonValue))

namespace JsonValue

/-- A natural number. -/
def nat (n : Nat) : JsonValue :=
  .number (Decimal.ofNat n)

/-- A whole number. -/
def int (n : Int) : JsonValue :=
  .number (Decimal.ofInt n)

/-- A text, or null where there is none. -/
def optional : Option Text → JsonValue
  | some text => .string text
  | none => .null

/-- A character within a string. Of the control characters, five have a letter of their own. -/
def escape (c : Char) : Text :=
  match c with
  | '"' => ['\\', '"']
  | '\\' => ['\\', '\\']
  | '\x08' => ['\\', 'b']
  | '\x0c' => ['\\', 'f']
  | '\n' => ['\\', 'n']
  | '\r' => ['\\', 'r']
  | '\t' => ['\\', 't']
  | c =>
    -- The controls that are left have no letter, and everything else needs none.
    if c.toNat < 0x20 then
      ['\\', 'u', '0', '0', Nat.digitChar (c.toNat / 16), Nat.digitChar (c.toNat % 16)]
    else [c]

/-- A text in double quotes. -/
def quote (text : Text) : Text :=
  '"' :: text.flatMap escape ++ ['"']

/-- The white space of a document's text. -/
structure Layout where
  /-- What stands between a name's colon and its value. -/
  afterColon : Text
  /-- What stands before an item or a closing bracket at a depth of nesting. -/
  before (depth : Nat) : Text

/-- No white space at all. -/
def Layout.compact : Layout where
  afterColon := []
  before _ := []

/-- Every item on a line of its own, two spaces further in at every depth. -/
def Layout.spacious : Layout where
  afterColon := [' ']
  before depth := '\n' :: List.replicate (2 * depth) ' '

mutual

/-- The text of a document at a depth of nesting. An empty array or object stays on one line. -/
def print (layout : Layout) (depth : Nat) : JsonValue → Text
  | null => ['n', 'u', 'l', 'l']
  | bool true => ['t', 'r', 'u', 'e']
  | bool false => ['f', 'a', 'l', 's', 'e']
  | number literal => literal
  | string text => quote text
  | halved => quote ['\uFFFD']
  | array [] => ['[', ']']
  | array (item :: rest) =>
    '[' :: layout.before (depth + 1) ++ print layout (depth + 1) item
      ++ printItems layout (depth + 1) rest ++ layout.before depth ++ [']']
  | object [] => ['\x7b', '\x7d']
  | object ((name, value) :: rest) =>
    '\x7b' :: layout.before (depth + 1) ++ quote name ++ ':' :: layout.afterColon
      ++ print layout (depth + 1) value ++ printMembers layout (depth + 1) rest
      ++ layout.before depth ++ ['\x7d']

/-- The items after the first one, each behind a comma. -/
def printItems (layout : Layout) (depth : Nat) : List JsonValue → Text
  | [] => []
  | item :: rest =>
    ',' :: layout.before depth ++ print layout depth item ++ printItems layout depth rest

/-- The members after the first one, each behind a comma. -/
def printMembers (layout : Layout) (depth : Nat) : List (Text × JsonValue) → Text
  | [] => []
  | (name, value) :: rest =>
    ',' :: layout.before depth ++ quote name ++ ':' :: layout.afterColon
      ++ print layout depth value ++ printMembers layout depth rest

end

/-- The text on one line. -/
def compact (value : JsonValue) : Text :=
  value.print .compact 0

/-- The text over several lines. -/
def spacious (value : JsonValue) : Text :=
  value.print .spacious 0

end JsonValue

end AmigaRemote
