import AmigaRemote.Text.Space
import AmigaRemote.Wire.Encoding
import AmigaRemote.Wire.Line

/-! Commands and the lines they are sent as. -/

namespace AmigaRemote

/-- How the response to a command is laid out. -/
inductive Framing where
  /-- Status line, lines of text, sentinel. -/
  | lines
  /-- Status line, chunks, end line, sentinel. -/
  | chunked
  /-- Status line, then chunks until the stream ends. -/
  | stream
  deriving DecidableEq, Repr

/-- What a client can ask of the daemon. -/
inductive Command where
  | version
  | ping
  | quit
  | shutdown
  | dir (path : Text)
  | stat (path : Text)
  | read (path : Text)
  | write (path : Text) (size : UInt64)
  | exec (command : Text)
  | execAsync (command : Text)
  | arexx (host command : Text)
  | rename (source target : Text)
  | tail (path : Text)
  | stop
  | traceStart (filters : List Text)
  | traceRun (filters : List Text) (command : Text)
  | traceStop
  | traceStatus
  | traceEnable (names : List Text)
  | traceDisable (names : List Text)
  /-- Any line, sent as it is. -/
  | raw (line : Text)
  deriving DecidableEq, Repr

namespace Command

/-- The words a command begins with. -/
def verb : Command → Text
  | version => "VERSION".toList
  | ping => "PING".toList
  | quit => "QUIT".toList
  | shutdown => "SHUTDOWN".toList
  | dir _ => "DIR".toList
  | stat _ => "STAT".toList
  | read _ => "READ".toList
  | write _ _ => "WRITE".toList
  | exec _ => "EXEC".toList
  | execAsync _ => "EXEC ASYNC".toList
  | arexx _ _ => "AREXX".toList
  | rename _ _ => "RENAME".toList
  | tail _ => "TAIL".toList
  | stop => "STOP".toList
  | traceStart _ => "TRACE START".toList
  | traceRun _ _ => "TRACE RUN".toList
  | traceStop => "TRACE STOP".toList
  | traceStatus => "TRACE STATUS".toList
  | traceEnable _ => "TRACE ENABLE".toList
  | traceDisable _ => "TRACE DISABLE".toList
  | raw line => line.words.headD []

/-- How the response to a command is laid out. -/
def framing : Command → Framing
  | read _ | exec _ | arexx _ _ => .chunked
  | tail _ | traceStart _ | traceRun _ _ => .stream
  | _ => .lines

/-- A verb and its arguments, with a space before each argument that is not empty. -/
def phrase (verb : Text) (arguments : List Text) : Text :=
  -- An empty argument leaves no trace, not even a space.
  verb ++ (arguments.filter (· ≠ [])).flatMap (' ' :: ·)

/-- The lines of a command. Only a renaming has more than one, as paths may hold spaces. -/
def lines (c : Command) : List Text :=
  match c with
  | shutdown => ["SHUTDOWN CONFIRM".toList]
  | dir path | stat path | read path | tail path => [phrase c.verb [path]]
  | write path size => [phrase c.verb [path, Decimal.ofNat size.toNat]]
  | exec command | execAsync command => [phrase c.verb [command]]
  | arexx host command => [phrase c.verb [host, command]]
  | rename source target => [c.verb, source, target]
  | traceStart filters => [phrase c.verb filters]
  | traceRun filters command => [phrase c.verb filters ++ " -- ".toList ++ command]
  | traceEnable names | traceDisable names => [phrase c.verb names]
  | raw line => [line]
  | version | ping | quit | stop | traceStop | traceStatus => [c.verb]

/-- Whether a character would end a line. -/
def breaksLine (c : Char) : Bool :=
  c = '\r' || c = '\n'

/-- The bytes of one line of a command, its end included. -/
def encodeLine (verb : Text) (encoding : Encoding) (line : Text) : Except WireError Bytes := do
  -- A line break would make two commands of one.
  if line.any breaksLine then throw (.invalidArgument (.lineBreak verb))
  return (← encoding.encode line) ++ [Line.feed]

/-- The bytes of a command, all its lines or none. -/
def encode (encoding : Encoding) (c : Command) : Except WireError Bytes :=
  -- The first line that cannot be sent decides, and then nothing is.
  return (← c.lines.mapM (encodeLine c.verb encoding)).flatten

end Command

end AmigaRemote
