import AmigaRemote.Wire.Command

/-! Requests for streams. -/

namespace AmigaRemote

/-- What a stream carries. -/
inductive StreamKind where
  /-- What is appended to a file. -/
  | tail
  /-- The calls of all programs. -/
  | traceStart
  /-- The calls of one program, until it ends. -/
  | traceRun
  deriving DecidableEq, Repr

namespace StreamKind

/-- Whether a stream may hold remarks of the daemon. -/
def hasComments : StreamKind → Bool
  | tail => false
  | traceStart => true
  | traceRun => true

/-- Whether the stream ends by itself once the traced program has ended. -/
def endsOnExit (kind : StreamKind) : Bool :=
  kind = traceRun

end StreamKind

/-- A request for a stream. -/
inductive StreamRequest where
  | tail (path : Text)
  | traceStart (filters : List Text)
  | traceRun (filters : List Text) (command : Text)
  deriving DecidableEq, Repr

namespace StreamRequest

/-- What the stream would carry. -/
def kind : StreamRequest → StreamKind
  | tail _ => .tail
  | traceStart _ => .traceStart
  | traceRun _ _ => .traceRun

/-- The command that asks for the stream. -/
def command : StreamRequest → Command
  | tail path => .tail path
  | traceStart filters => .traceStart filters
  | traceRun filters command => .traceRun filters command

end StreamRequest

end AmigaRemote
