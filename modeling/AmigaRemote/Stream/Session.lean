import AmigaRemote.Client.Operations
import AmigaRemote.Stream.Request

/-! Streams over a connection. There is one line of control: to stop a stream, the client sends a
stop among its commands and reads on. A stop that the daemon gets after it has ended the stream by
itself is answered like any command, and that answer has to be read as well. -/

namespace AmigaRemote

/-- Where a stream is in its course. -/
inductive StreamState where
  | streaming
  /-- The stream came to its end. -/
  | stopped
  /-- The daemon broke the stream off. -/
  | failed
  /-- The wire failed. -/
  | broken
  deriving DecidableEq, Repr

/-- Whether a stop may still be sent. -/
inductive StopPhase where
  | armed
  | sent
  /-- The stream is over, or known to end by itself. -/
  | disarmed
  deriving DecidableEq, Repr

/-- One stream. -/
structure Stream where
  kind : StreamKind
  /-- What the daemon said when it began. -/
  info : Text
  state : StreamState
  phase : StopPhase
  /-- Whether a stop was sent that the daemon gets after the end of the stream. -/
  crossedStop : Bool
  /-- Why the daemon broke the stream off. -/
  failure : Option DaemonError
  deriving DecidableEq, Repr

/-- A stream together with the connection it runs over. -/
structure Session where
  connection : Connection
  stream : Stream

/-- What is done with a stream and its connection. -/
abbrev Streaming := Step Session ClientError

namespace Stream

/-- Whether no more events follow. -/
def isOver (s : Stream) : Bool :=
  s.state ≠ .streaming

/-- Whether a stop was sent that may still be answered by the end of the stream. -/
def stopRequested (s : Stream) : Bool :=
  s.phase = .sent

/-- The number that the daemon said when the stream began: a size, or a process number. -/
def number? (s : Stream) : Option UInt64 :=
  infoNumber? Decimal.uint64? s.info

/-- The stream once no stop may be sent any more. -/
def disarm (s : Stream) : Stream :=
  { s with phase := .disarmed }

/-- The stream once it ends by itself: a stop that is on its way comes too late. -/
def endByItself (s : Stream) : Stream :=
  -- Such a stop is not part of the stream any more, so the daemon answers it on its own.
  { s with crossedStop := s.crossedStop || s.phase = .sent, phase := .disarmed }

end Stream

/-- Asks for a stream. An error in reply means that there is none. -/
def Connection.openStream (request : StreamRequest) : Client Stream := do
  -- The status line decides whether there is a stream at all.
  send request.command
  match ← receive Reader.readStatus with
  | (.err, info) =>
    receive Reader.expectSentinel
    throw (.daemon (.ofInfo info))
  | (.ok, info) =>
    -- From here on silence is no failure unless the settings say so.
    setWaitLimit (← get).settings.streamLimit?
    return ⟨request.kind, info, .streaming, .armed, false, none⟩

/-- Goes back to waiting for replies, and reads the reply to a stop that came too late. -/
def Connection.leaveStream (crossedStop : Bool) : Client Unit := do
  setWaitLimit (← get).settings.replyLimit?
  -- Left unread, this reply would be taken for that to the next command.
  if crossedStop then
    let _ ← receive Reader.readResponse

namespace Session

/-- All bytes that are not consumed, arrived or not. -/
def unread (s : Session) : Bytes :=
  s.connection.unread

/-- Does something with the connection. -/
def onConnection {α : Type} (client : Client α) : Streaming α := fun s =>
  let (result, connection) := client s.connection
  (result, { s with connection })

/-- Changes the stream. -/
def update (change : Stream → Stream) : Streaming Unit :=
  modify fun s => { s with stream := change s.stream }

/-- Puts the stream into a state. -/
def enter (state : StreamState) : Streaming Unit :=
  update fun stream => { stream with state }

/-- Sends a stop if none was sent and one may be. Anyone may do so at any time. From then on a
reply is being waited for. -/
def requestStop (s : Session) : Except WireError Unit × Session :=
  -- A second stop, or one after the end, would be a command of its own.
  if s.stream.phase ≠ .armed then (.ok (), s)
  else match s.connection.sink.sendCommand s.connection.settings.encoding .stop with
    -- A stop that could not be sent may be tried again.
    | (.error e, sink) => (.error e, { s with connection := { s.connection with sink } })
    | (.ok (), sink) =>
      let waitLimit? := s.connection.settings.replyLimit?
      (.ok (), {
        connection := { s.connection with sink, waitLimit? }
        stream := { s.stream with phase := .sent } })

/-- Sends a stop from outside of the session, which learns of a failure only by itself. -/
def stopElsewhere : Streaming Unit := fun s =>
  let (result, s) := requestStop s
  (result.mapError .wire, s)

/-- Sends a stop from within the session. Events still follow, up to the end of the stream. -/
def stop : Streaming Unit := fun s =>
  -- There is nothing left to stop.
  if s.stream.isOver then (.ok (), s)
  else match requestStop s with
    | (.ok (), s) => (.ok (), s)
    -- Part of the stop may have been sent, so neither stream nor connection can go on.
    | (.error e, s) => (do enter .broken; onConnection (Connection.guard (.error e))) s

/-- Takes the next chunk. Nothing but the reading end of the connection is touched. -/
def awaitChunk (s : Session) : Except WireError Chunk × Session :=
  let (result, reader) := Reader.readChunk s.connection.reader
  (result, { s with connection := { s.connection with reader } })

/-- Goes back to commands once the stream is over. -/
def finish : Streaming Unit := fun s =>
  match onConnection (Connection.leaveStream s.stream.crossedStop) s with
  | (.ok (), s) => (.ok (), s)
  -- The end was seen, but what follows it is out of step.
  | (.error e, s) => (do enter .broken; throw e) s

/-- Whether an event tells that the traced program has ended. -/
def tellsExit : StreamEvent → Bool
  | .comment text =>
    match Notice.parse text with
    | .processExited _ => true
    | _ => false
  | _ => false

/-- Once the traced program has ended the stream ends by itself, so no stop may be sent. -/
def watchExit (event : StreamEvent) : Streaming Unit :=
  update fun stream =>
    -- A trace of all programs goes on when one of them ends.
    if stream.kind.endsOnExit ∧ tellsExit event then stream.endByItself else stream

/-- What a chunk that was taken means for the session. -/
def process : Except WireError Chunk → Streaming StreamEvent
  | .error e => do
    update fun stream => { stream.disarm with state := .broken }
    onConnection (Connection.guard (.error e))
  | .ok (.data bytes) => do
    let s ← get
    let encoding := s.connection.settings.encoding
    let event := StreamEvent.ofChunk bytes s.stream.kind.hasComments encoding
    watchExit event
    return event
  | .ok .ended => do
    -- Without a notice of the exit, a stop that was sent is answered by this end.
    update fun stream => { stream.disarm with state := .stopped }
    finish
    return .ended
  | .ok (.aborted e) => do
    -- An error is the daemon's own doing, so a stop on its way comes too late.
    update fun stream => { stream.endByItself with state := .failed, failure := some e }
    finish
    return .aborted e

/-- The next event, none once the stream is over. -/
def nextEvent : Streaming (Option StreamEvent) := fun s =>
  if s.stream.isOver then (.ok none, s)
  else
    -- One chunk is taken for each event, and nothing is read ahead.
    let (taken, s) := awaitChunk s
    (some <$> process taken) s

end Session

end AmigaRemote
