import AmigaRemote.Toml.Scalar

/-! The statements of a TOML document, as far as settings need them: tables hold one empty table or
array at most, and names have one or two parts. Other documents are refused. -/

namespace AmigaRemote.Toml

/-- What a name is given. -/
inductive Value where
  | string (text : Text)
  | integer (n : Int)
  /-- An empty table or array. -/
  | empty
  /-- A table with one name, which is given an empty table or array. -/
  | choice (name : Text)
  /-- A table that a heading opens. -/
  | opened

/-- Names and their values, each name within the table whose heading it stands under. -/
abbrev Entry := List Text × Value

/-- Whether a character may stand in a name without quotes. -/
def isNameLetter (c : Char) : Bool :=
  c.isAlphanum || c = '_' || c = '-'

/-- One part of a name. -/
def namePart (t : Text) : Option (Text × Text) :=
  -- A name in quotes may hold anything, also nothing.
  match lineString t with
  | some read => some read
  | none =>
    let part := t.takeWhile isNameLetter
    if part = [] then none else some (part, t.drop part.length)

/-- A name of one or two parts, with a dot between them, and the blanks behind it. -/
def name (t : Text) : Option (List Text × Text) := do
  let (first, rest) ← namePart t
  match dropBlanks rest with
  | '.' :: rest =>
    let (second, rest) ← namePart (dropBlanks rest)
    return ([first, second], dropBlanks rest)
  | rest => return ([first], rest)

/-- The text without the white space and the remarks at its front. -/
def dropRemarks (within : Bool) : Text → Option Text
  | [] => some []
  | '\r' :: '\n' :: rest | '\n' :: rest => dropRemarks false rest
  | c :: rest =>
    -- A remark ends with its line, and holds no controls.
    if within then if isVisible c then dropRemarks true rest else none
    else if c = '#' then dropRemarks true rest
    else if isBlank c then dropRemarks false rest
    else some (c :: rest)

/-- An empty table, or an array with nothing but remarks in it. -/
def nothing : Text → Option Text
  | '\x7b' :: rest =>
    match dropBlanks rest with
    | '\x7d' :: rest => some rest
    | _ => none
  | '[' :: rest => do
    match ← dropRemarks false rest with
    | ']' :: rest => some rest
    | _ => none
  | _ => none

/-- A table on one line that gives a single name nothing. -/
def choice : Reads Value
  | '\x7b' :: rest => do
    let (path, rest) ← name (dropBlanks rest)
    match path, rest with
    | [chosen], '=' :: rest =>
      match dropBlanks (← nothing (dropBlanks rest)) with
      | '\x7d' :: rest => some (.choice chosen, rest)
      | _ => none
    | _, _ => none
  | _ => none

/-- A value. -/
def value (t : Text) : Option (Value × Text) :=
  ((string t).map fun (text, rest) => (Value.string text, rest))
    <|> ((integer t).map fun (n, rest) => (Value.integer n, rest))
    <|> ((nothing t).map fun rest => (Value.empty, rest))
    <|> choice t

/-- A statement within the table of a heading, and the table for the statements after it. -/
def statement (table : List Text) : Text → Option ((Entry × List Text) × Text)
  | '[' :: rest => do
    let (path, rest) ← name (dropBlanks rest)
    match rest with
    | ']' :: rest => some (((path, .opened), path), rest)
    | _ => none
  | t => do
    let (path, rest) ← name t
    match rest with
    | '=' :: rest =>
      let (given, rest) ← value (dropBlanks rest)
      -- The heading above goes before the name.
      return (((table ++ path, given), table), rest)
    | _ => none

/-- What follows a statement on its line: blanks and a remark, up to and including the line end. -/
def endLine (t : Text) : Option Text :=
  let line := (dropBlanks t).takeWhile (· ≠ '\n')
  let rest := (dropBlanks t).dropWhile (· ≠ '\n')
  -- A carriage return belongs to the line end, and only to it.
  let line := if rest ≠ [] ∧ line.getLast? = some '\r' then line.dropLast else line
  if line = [] ∨ (line.head? = some '#' ∧ line.all isVisible) then some (rest.drop 1) else none

/-- The statements of what is left of a document, those before them at hand, last one first. -/
def entriesAfter (done : List Entry) (table : List Text) (document : Text) :
    Option (List Entry) :=
  -- Between statements there is nothing but white space and remarks.
  match dropRemarks false document with
  | none => none
  | some [] => some done.reverse
  | some t =>
    match statement table t with
    | none => none
    | some ((entry, table), rest) =>
      match endLine rest with
      | none => none
      | some rest =>
        -- A statement takes something, so less is left.
        if _ : rest.length < document.length then entriesAfter (entry :: done) table rest
        else none
termination_by document.length

/-- The statements of a document, which a byte order mark may precede. -/
def entries (document : Text) : Option (List Entry) :=
  entriesAfter [] [] ((document.after? ['\uFEFF']).getD document)

end AmigaRemote.Toml
