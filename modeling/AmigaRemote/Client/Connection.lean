import AmigaRemote.Client.Error
import AmigaRemote.Settings.Basic
import AmigaRemote.Wire.Banner
import AmigaRemote.Wire.Frame
import AmigaRemote.Wire.Sending

/-! A connection to the daemon. Commands follow one another: each is sent and its whole reply is
read before the next one. A failure of the wire ends the use of the connection, for what arrives
after it cannot be assigned to a command any more. -/

namespace AmigaRemote

/-- Whether a connection is of use. -/
inductive Health where
  | ready
  /-- The wire failed. -/
  | broken
  | closed
  deriving DecidableEq, Repr

/-- A connection whose daemon has greeted. -/
structure Connection where
  reader : Reader
  sink : Sink
  settings : Settings
  health : Health
  /-- The limit of each wait for bytes, in seconds. -/
  waitLimit? : Option UInt64
  /-- The line with which the daemon greeted. -/
  banner : Text
  version : ProtocolVersion

/-- What a client does with a connection. -/
abbrev Client := Step Connection ClientError

namespace Connection

/-- Whether commands can be sent. -/
def isUsable (c : Connection) : Bool :=
  c.health = .ready

/-- All bytes that are not consumed, arrived or not. -/
def unread (c : Connection) : Bytes :=
  c.reader.unread

/-- The connection over a transport once the daemon has greeted, and what is left to read if it
does not. -/
def greet (settings : Settings) (source : Source) (sink : Sink) :
    Except ClientError Connection × Reader :=
  -- The greeting is the first line, and nothing is sent before it.
  match Reader.readLine (.ofSource source settings.encoding) with
  | (.error e, reader) => (.error (.wire e), reader)
  | (.ok banner, reader) =>
    match Banner.parse banner with
    | .error e => (.error (.wire e), reader)
    | .ok version =>
      (.ok ⟨reader, sink, settings, .ready, settings.replyLimit?, banner, version⟩, reader)

/-- The connection over a transport, if one comes about and the daemon greets. -/
def connect (settings : Settings) (transport : Except Fault (Source × Sink)) :
    Except ClientError Connection :=
  match transport with
  | .error fault => .error (.unreachable settings.address fault)
  | .ok (source, sink) => (greet settings source sink).1

/-- Ends the use of the connection for a failure of the wire. -/
def breakOff {α : Type} (e : WireError) : Client α :=
  fun c => (.error (.wire e), { c with health := .broken })

/-- A result of the wire. A failure breaks the connection unless it came before anything was
sent. -/
def guard {α : Type} : Except WireError α → Client α
  | .ok a => pure a
  -- After any other failure nobody knows which reply the next bytes belong to.
  | .error e => if e.beforeSending then throw (.wire e) else breakOff e

/-- Reads from the connection. -/
def receive {α : Type} (reading : Reading α) : Client α := fun c =>
  -- What was read is gone even if the reading fails.
  let (result, reader) := reading c.reader
  guard result { c with reader }

/-- The guard lets pass exactly what is no failure, and then leaves the connection alone. -/
theorem guard_ok {α : Type} {result : Except WireError α} {c after : Connection} {a : α}
    (passed : guard result c = (.ok a, after)) : result = .ok a ∧ after = c := by
  -- A failure never passes, whether it breaks the connection or not.
  cases result with
  | ok b =>
    simp only [guard, Step.pure_apply, Prod.mk.injEq, Except.ok.injEq] at passed
    exact ⟨congrArg _ passed.1, passed.2.symm⟩
  | error e =>
    simp only [guard] at passed
    split at passed <;> simp [breakOff] at passed

/-- What was received was read, and nothing but the reading end of the connection changed. -/
theorem receive_ok {α : Type} {reading : Reading α} {c after : Connection} {a : α}
    (received : receive reading c = (.ok a, after)) :
    reading c.reader = (.ok a, after.reader) ∧ after = { c with reader := after.reader } := by
  -- The guard lets only successes of the reading pass, and then changes nothing.
  obtain ⟨result, same⟩ := guard_ok received
  rw [same]
  exact ⟨Prod.ext result rfl, rfl⟩

/-- Writes to the connection. -/
def transmit (sending : Sink → Except WireError Unit × Sink) : Client Unit := fun c =>
  let (result, sink) := sending c.sink
  guard result { c with sink }

/-- Sends a command. -/
def send (command : Command) : Client Unit := do
  let c ← get
  -- A connection that is of no use is not written to.
  if c.health ≠ .ready then throw .closed
  transmit fun sink => sink.sendCommand c.settings.encoding command

/-- Sets the limit of each wait for bytes. -/
def setWaitLimit (limit? : Option UInt64) : Client Unit :=
  modify fun c => { c with waitLimit? := limit? }

/-- Sends a command and reads its reply, whatever the daemon says. A command that opens a stream is
refused. -/
def execute (command : Command) : Client Response :=
  match command.framing with
  -- Refused whatever state the connection is in, for nothing is sent.
  | .stream => guard (.error (.invalidArgument (.needsSession command.verb)))
  | .lines => do
    send command
    receive Reader.readResponse
  | .chunked => do
    send command
    receive Reader.readChunkedResponse

/-- The response itself, unless it reports an error. -/
def accept (response : Response) : Client Response :=
  match response.result with
  | .ok response => pure response
  | .error e => throw (.daemon e)

/-- Sends a command and reads its reply, which must not report an error. -/
def request (command : Command) : Client Response := do
  accept (← execute command)

/-- What a reply means, unless it cannot be understood. -/
def understand {α : Type} : Except ReplyFault α → Client α
  | .ok a => pure a
  | .error fault => throw (.unexpectedReply fault)

/-- Closes the transport in both directions. -/
def hangUp : Client Unit :=
  modify fun c =>
    -- To close what is closed changes nothing.
    if c.health = .closed then c
    else { c with health := .closed, sink := c.sink.refusing (.system .brokenPipe) }

/-- The connection after its last use: a farewell if commands can be sent, then the end of the
transport. What the daemon answers is of no concern. -/
def release (c : Connection) : Connection :=
  -- A connection out of step is closed without a farewell.
  let c := if c.health = .ready then (request .quit c).2 else c
  (hangUp c).2

end Connection

end AmigaRemote
