import AmigaRemote.Client.Connection
import AmigaRemote.Reply.DirEntry
import AmigaRemote.Reply.ObjectInfo
import AmigaRemote.Reply.TraceStatus
import AmigaRemote.Wire.StreamEvent

/-! What a client can ask of the daemon in one exchange, and what the replies mean. -/

namespace AmigaRemote

/-- What a program that ran to its end left behind. -/
structure ExecOutput where
  rc : Int32
  output : Bytes
  deriving DecidableEq, Repr

/-- The answer of a script host. -/
structure ScriptReply where
  rc : Int32
  result : Text
  deriving DecidableEq, Repr

/-- The number in the first word of an info, after an equals sign if there is one. -/
def infoNumber? {α : Type} (read : Text → Option α) (info : Text) : Option α :=
  -- Both forms are in use: the number alone, and a name before it.
  info.words.head?.bind fun word => read (word.afterLast (· = '='))

namespace Connection

/-- The return code in an info. -/
def requireReturnCode (info : Text) : Client Int32 :=
  match returnCode? info with
  | some rc => pure rc
  | none => throw (.unexpectedReply (.noReturnCode info))

/-- Any line, whose reply carries lines. -/
def command (line : Text) : Client Response :=
  request (.raw line)

/-- Any line, whose reply carries data. -/
def chunkedCommand (line : Text) : Client Response := do
  -- The command does not tell that data will come, so the reply is read accordingly.
  send (.raw line)
  accept (← receive Reader.readChunkedResponse)

/-- The version of the daemon. -/
def askVersion : Client Text := do
  -- Further lines are of no concern.
  match (← request .version).lines with
  | line :: _ => pure line
  | [] => throw (.unexpectedReply .noVersion)

/-- Whether the daemon answers. -/
def ping : Client Unit := do
  let _ ← request .ping

/-- Ends the daemon, and with it the connection. -/
def shutdown : Client Unit := do
  let _ ← request .shutdown
  hangUp

/-- The entries of a directory. -/
def dir (path : Text) : Client (List DirEntry) := do
  understand (DirEntry.parseAll (← request (.dir path)).lines)

/-- What is known about an object. -/
def stat (path : Text) : Client ObjectInfo := do
  understand (ObjectInfo.parse (← request (.stat path)).lines)

/-- The bytes of a file. A size in the info must be theirs. -/
def read (path : Text) : Client Bytes := do
  let response ← request (.read path)
  let sent := response.data.length
  -- Info that is no number announces nothing.
  match Decimal.nat? (UInt64.size - 1) response.info.trim with
  | some announced =>
    if announced ≠ sent then throw (.unexpectedReply (.sizeDiffers announced sent))
    else return response.data
  | none => return response.data

/-- Runs a program to its end. -/
def exec (command : Text) : Client ExecOutput := do
  let response ← request (.exec command)
  -- Without a return code the result is of no use, however long it is.
  let rc ← requireReturnCode response.info
  return ⟨rc, response.data⟩

/-- Starts a program and tells its process number. -/
def execAsync (command : Text) : Client UInt32 := do
  let response ← request (.execAsync command)
  match infoNumber? Decimal.uint32? response.info with
  | some process => pure process
  | none => throw (.unexpectedReply (.noProcess response.info))

/-- Has a script host carry out a command. Line ends after the result are no part of it. -/
def arexx (host command : Text) : Client ScriptReply := do
  let response ← request (.arexx host command)
  let rc ← requireReturnCode response.info
  let result := (← get).settings.encoding.decode response.data
  return ⟨rc, result.trimEndOf Command.breaksLine⟩

/-- Renames or moves a file. -/
def rename (source target : Text) : Client Unit := do
  let _ ← request (.rename source target)

/-- Ends another client's trace. -/
def traceStop : Client Unit := do
  let _ ← request .traceStop

/-- The state of the tracer. -/
def traceStatus : Client TraceStatus := do
  understand (TraceStatus.parse (← request .traceStatus).lines)

/-- Enables tracing, of some functions only if any are named. -/
def traceEnable (names : List Text) : Client Unit := do
  let _ ← request (.traceEnable names)

/-- Disables tracing, of some functions only if any are named. -/
def traceDisable (names : List Text) : Client Unit := do
  let _ ← request (.traceDisable names)

end Connection

end AmigaRemote
