import AmigaRemote.Json.Lexeme

/-! JSON documents from their texts. Names may occur more than once, and nothing is said about
how deep a document may nest. -/

namespace AmigaRemote

/-- An array or object whose end has not come yet. What it holds is at hand, last one first. -/
inductive OpenValue where
  | array (items : List JsonValue)
  | object (members : List (Text × JsonValue))
  /-- An object whose next value belongs to a name. -/
  | named (members : List (Text × JsonValue)) (name : Text)
  /-- An object with a name that is no text. -/
  | halved

/-- What may come next. -/
inductive Expected where
  /-- A value. -/
  | value
  /-- A value, or the end of the array. -/
  | firstItem
  /-- A name. -/
  | name
  /-- A name, or the end of the object. -/
  | firstName
  /-- A colon. -/
  | colon
  /-- A comma, or the end of what is open. -/
  | comma
  /-- Nothing more. -/
  | nothing (value : JsonValue)

namespace JsonValue

/-- Puts a complete value where it belongs: into what is open, or in the place of the document. -/
def place (value : JsonValue) : List OpenValue → List OpenValue × Expected
  | [] => ([], .nothing value)
  | .array items :: outer => (.array (value :: items) :: outer, .comma)
  | .named members name :: outer => (.object ((name, value) :: members) :: outer, .comma)
  | inner :: outer => (inner :: outer, .comma)

/-- The value that is complete when the innermost open one ends with a bracket. -/
def close? (bracket : Char) : List OpenValue → Option (JsonValue × List OpenValue)
  | .array items :: outer => if bracket = ']' then some (.array items.reverse, outer) else none
  | .object members :: outer =>
    if bracket = '\x7d' then some (.object members.reverse, outer) else none
  | .halved :: outer => if bracket = '\x7d' then some (.halved, outer) else none
  | _ => none

/-- The name of the next value of an object. -/
def giveName (name : JsonValue) : List OpenValue → Option (List OpenValue)
  | .object members :: outer =>
    match name with
    | .string name => some (.named members name :: outer)
    | .halved => some (.halved :: outer)
    | _ => none
  | .halved :: outer =>
    match name with
    | .string _ | .halved => some (.halved :: outer)
    | _ => none
  | _ => none

/-- One piece further. -/
def step (opened : List OpenValue) (expected : Expected) (piece : Lexeme) :
    Option (List OpenValue × Expected) :=
  match expected, piece with
  | .value, .plain value | .firstItem, .plain value => some (place value opened)
  | .value, .mark '[' | .firstItem, .mark '[' => some (.array [] :: opened, .firstItem)
  | .value, .mark '\x7b' | .firstItem, .mark '\x7b' => some (.object [] :: opened, .firstName)
  | .name, .plain name | .firstName, .plain name =>
    (giveName name opened).map fun opened => (opened, .colon)
  | .colon, .mark ':' => some (opened, .value)
  | .comma, .mark ',' =>
    -- The same comma asks for a value in an array and for a name in an object.
    match opened with
    | .array _ :: _ => some (opened, .value)
    | _ => some (opened, .name)
  | .firstItem, .mark c | .firstName, .mark c | .comma, .mark c =>
    (close? c opened).map fun (value, outer) => place value outer
  | _, _ => none

/-- The document of a text. -/
def parse? (text : Text) : Option JsonValue := do
  -- Once the document is complete no piece may follow.
  let pieces ← Lexeme.ofText? text
  let start : List OpenValue × Expected := ([], .value)
  match ← pieces.foldlM (fun (opened, expected) piece => step opened expected piece) start with
  | (_, .nothing value) => return value
  | _ => none

end JsonValue

end AmigaRemote
