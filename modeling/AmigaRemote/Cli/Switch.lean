import AmigaRemote.Text.Utf8

/-! The words of a command line: switches with and without values, subcommands, and arguments that
go by their place. -/

namespace AmigaRemote.Cli

/-- A word of a command line, which comes as bytes: not every word is a text. -/
abbrev Word := Bytes

namespace Word

/-- The word for a text. -/
def ofText (t : Text) : Word :=
  Utf8.encode t

/-- The text that a word is, if it is one. -/
def text? (w : Word) : Option Text :=
  Utf8.decode? w

end Word

/-- What a word must be to mean something where it stands. -/
inductive Kind where
  | text
  /-- A path in the local file system. It must not be empty, and need not be a text. -/
  | path
  deriving DecidableEq, Repr

/-- Whether a word is of a kind. -/
def Kind.admits : Kind → Word → Bool
  | text, w => w.text?.isSome
  | path, w => w ≠ []

/-- Why arguments ask for no action. -/
inductive NoAction where
  /-- They are not understood. -/
  | misuse
  /-- They ask how the program is used. -/
  | help
  /-- They ask for the version of the program. -/
  | version
  deriving DecidableEq, Repr

/-- What a switch does. -/
inductive SwitchRole where
  /-- It holds or does not hold. -/
  | flag
  /-- It has a value, of which some are refused. -/
  | value (accepts : Word → Bool)
  /-- It may be given several times, each time with a text. -/
  | values
  /-- It asks for something else than an action. -/
  | ends (why : NoAction)

/-- A switch. -/
structure Switch where
  long : Text
  short : Option Char
  role : SwitchRole

/-- Where a command takes arguments that go by their place. -/
inductive Places where
  /-- As many as there are kinds, each of its kind. The others are texts. -/
  | each (kinds : List Kind)
  | anyNumber
  /-- From the first one on, all words are arguments, and words that are no switches may come
  first. -/
  | wholeRest
  /-- Only behind a double dash. -/
  | behindDashes
  deriving DecidableEq, Repr

/-- What a command admits. -/
structure Grammar where
  switches : List Switch
  subcommands : List Text
  places : Places

/-- What the words of a command say. -/
structure Scanned where
  /-- The switches that were given, with their values, last one first. -/
  given : List (Text × Word)
  /-- The arguments that go by their place, last one first. -/
  arguments : List Word
  /-- The switch whose value must come next. -/
  waiting : Option Switch
  /-- Whether every further word is an argument. -/
  literal : Bool

namespace Scanned

/-- No words yet. -/
def empty : Scanned :=
  ⟨[], [], none, false⟩

/-- Whether a switch was given. -/
def has (s : Scanned) (long : Text) : Bool :=
  s.given.any fun (name, _) => name = long

/-- The values of a switch, in order. -/
def valuesOf (s : Scanned) (long : Text) : List Word :=
  (s.given.filter fun (name, _) => name = long).reverse.map (·.2)

/-- The value of a switch. -/
def value? (s : Scanned) (long : Text) : Option Word :=
  s.given.lookup long

/-- Notes a switch and its value. Only some switches may be given twice. -/
def give (s : Scanned) (switch : Switch) (value : Word) : Except NoAction Scanned :=
  let noted := { s with given := (switch.long, value) :: s.given, waiting := none }
  match switch.role with
  | .ends why => .error why
  | .values => if Kind.text.admits value then .ok noted else .error .misuse
  | .flag => if s.has switch.long then .error .misuse else .ok noted
  | .value accepts =>
    -- Neither a second value nor one that means nothing is passed over.
    if s.has switch.long ∨ !accepts value then .error .misuse else .ok noted

/-- The kind of the next argument that goes by its place, if one more may come. -/
def nextKind? (g : Grammar) (s : Scanned) : Option Kind :=
  match g.places with
  | .each kinds => kinds[s.arguments.length]?
  | .anyNumber | .wholeRest => some .text
  | .behindDashes => if s.literal then some .text else none

/-- Notes an argument at its place. -/
def place (g : Grammar) (s : Scanned) (word : Word) : Except NoAction Scanned :=
  match s.nextKind? g with
  | none => .error .misuse
  | some kind =>
    if !kind.admits word then .error .misuse
    -- From the first argument on, switches are the business of the command that is passed on.
    else .ok { s with
      arguments := word :: s.arguments, literal := s.literal || g.places = .wholeRest }

/-- A switch with the value that is written together with it, if any is. -/
def giveAttached (s : Scanned) (switch : Switch) (value? : Option Word) :
    Except NoAction Scanned :=
  -- The switch before this one is left without its value.
  if s.waiting.isSome then .error .misuse
  else match switch.role, value? with
    | .value _, none | .values, none => .ok { s with waiting := some switch }
    | .value _, some value | .values, some value => s.give switch value
    | .flag, none | .ends _, none => s.give switch []
    | .flag, some _ | .ends _, some _ => .error .misuse

/-- A word that is no switch: the value that must come next, or an argument. -/
def plain (g : Grammar) (s : Scanned) (word : Word) : Except NoAction Scanned :=
  match s.waiting with
  | some switch => s.give switch word
  | none => s.place g word

/-- What stands between the name of a switch and its value. -/
def equals : UInt8 := 0x3D

/-- A word behind a double dash, with a value behind an equals sign. -/
def long (g : Grammar) (s : Scanned) (word body : Word) : Except NoAction Scanned :=
  let (name, value?) := match body.span (· ≠ equals) with
    | (name, _ :: value) => (name, some value)
    | (name, []) => (name, none)
  match g.switches.find? fun switch => Word.ofText switch.long = name with
  | some switch => s.giveAttached switch value?
  -- Words that begin like switches may be arguments only where all words may.
  | none => if g.places = .wholeRest then s.plain g word else .error .misuse

/-- The letters behind a single dash. What follows the letter of a switch with a value is that
value, less an equals sign in front. -/
def short (g : Grammar) (s : Scanned) (word letters : Word) : Except NoAction Scanned :=
  -- The letter of a switch is one byte, so a longer character is none.
  let ofLetter (b : UInt8) := g.switches.find? fun switch =>
    switch.short.any fun c => Word.ofText [c] = [b]
  -- One letter that is no switch makes an argument of the whole word.
  if g.places = .wholeRest ∧ letters.any fun b => (ofLetter b).isNone then s.plain g word
  else match letters with
    | [] => .error .misuse
    | b :: rest =>
      match ofLetter b with
      | none => .error .misuse
      | some switch =>
        match switch.role with
        | .value _ | .values =>
          let attached? := match rest with
            | [] => none
            | next :: value => some (if next = equals then value else rest)
          s.giveAttached switch attached?
        -- Every switch without a value that has a letter ends the reading.
        | .flag | .ends _ => s.giveAttached switch none

end Scanned

/-- The subcommand that a word names, if it may stand there. -/
def Scanned.subcommand? (g : Grammar) (s : Scanned) (word : Word) : Option Text :=
  -- The value of a switch may be the name of a subcommand.
  if s.literal ∨ s.waiting.isSome then none else word.text?.filter (· ∈ g.subcommands)

/-- Reads a word that names no subcommand. A dash is the byte 2D. -/
def Scanned.next (g : Grammar) (s : Scanned) (word : Word) : Except NoAction Scanned :=
  if s.literal then s.place g word
  else match word with
    | [0x2D, 0x2D] => if s.waiting.isSome then .error .misuse else .ok { s with literal := true }
    | 0x2D :: 0x2D :: body => s.long g word body
    | 0x2D :: b :: letters => s.short g word (b :: letters)
    | _ => s.plain g word

/-- Reads the words of a command up to a subcommand, and returns that and the words behind it. -/
def scan (g : Grammar) (s : Scanned) :
    List Word → Except NoAction (Scanned × Option (Text × List Word))
  | [] => if s.waiting.isSome then .error .misuse else .ok (s, none)
  | word :: rest =>
    match s.subcommand? g word with
    | some name => .ok (s, some (name, rest))
    | none => do scan g (← s.next g word) rest

end AmigaRemote.Cli
