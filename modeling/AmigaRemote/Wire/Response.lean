import AmigaRemote.Step
import AmigaRemote.Wire.Chunk

/-! Responses and the bytes the daemon sends for them. -/

namespace AmigaRemote

/-- The verdict of a status line. -/
inductive Status where
  | ok
  | err
  deriving DecidableEq, Repr

namespace Status

/-- The word a status line begins with. -/
def word : Status → Text
  | ok => ['O', 'K']
  | err => ['E', 'R', 'R']

/-- The verdict and the info of a status line: after the word comes nothing, or a space and the
info. -/
def parseLine (line : Text) : Except WireError (Status × Text) :=
  -- A word that is merely the beginning of a longer one is no verdict.
  if line = word ok then .ok (ok, [])
  else if line = word err then .ok (err, [])
  else if let some info := line.after? (word ok ++ [' ']) then .ok (ok, info)
  else if let some info := line.after? (word err ++ [' ']) then .ok (err, info)
  else .error (.unexpectedStatus line)

/-- The status line of a verdict and its info. -/
def line (status : Status) (info : Text) : Text :=
  if info = [] then status.word else status.word ++ ' ' :: info

end Status

/-- What a response carries. -/
inductive Payload where
  /-- Lines of text, without the dots added for the wire. -/
  | lines (lines : List Text)
  /-- The bytes of all chunks. -/
  | binary (data : Bytes)
  deriving DecidableEq, Repr

/-- A whole response. -/
structure Response where
  status : Status
  info : Text
  payload : Payload
  deriving DecidableEq, Repr

namespace Response

/-- A response that carries lines. -/
def ok (info : Text) (lines : List Text) : Response :=
  ⟨.ok, info, .lines lines⟩

/-- A response that carries data. -/
def okBinary (info : Text) (data : Bytes) : Response :=
  ⟨.ok, info, .binary data⟩

/-- A response that reports an error. -/
def error (e : DaemonError) : Response :=
  ⟨.err, e.info, .lines []⟩

/-- Whether the command succeeded. -/
def isOk (r : Response) : Bool :=
  r.status = .ok

/-- The payload lines, none if the payload is data. -/
def lines (r : Response) : List Text :=
  -- Which payload comes is up to the command, so the other one is merely empty.
  match r.payload with
  | .lines lines => lines
  | .binary _ => []

/-- The payload data, none if the payload is lines. -/
def data (r : Response) : Bytes :=
  match r.payload with
  | .lines _ => []
  | .binary data => data

/-- The error that the response reports, if it reports one. -/
def error? (r : Response) : Option DaemonError :=
  match r.status with
  | .ok => none
  | .err => some (.ofInfo r.info)

/-- The response itself if it reports no error. -/
def result (r : Response) : Except DaemonError Response :=
  match r.error? with
  | some e => .error e
  | none => .ok r

/-- The bytes of a line of text, its end included. -/
def encodeLine (encoding : Encoding) (line : Text) : Except WireError Bytes :=
  return (← encoding.encode line) ++ [Line.feed]

/-- What stands between the status line and the sentinel. An error keeps its data to itself. -/
def encodePayload (encoding : Encoding) (chunkSize : Nat) (r : Response) :
    Except WireError Bytes :=
  match r.status, r.payload with
  | _, .lines lines => do
    return (← lines.mapM fun line => encodeLine encoding (Line.stuff line)).flatten
  | .ok, .binary data => .ok (Chunk.encodeAll chunkSize data)
  | .err, .binary _ => .ok []

/-- The bytes of a response, its data in chunks of the given size. -/
def encode (encoding : Encoding) (chunkSize : Nat) (r : Response) : Except WireError Bytes := do
  -- Either every part has its bytes or the response has none.
  let status ← encodeLine encoding (r.status.line r.info)
  let payload ← r.encodePayload encoding chunkSize
  return status ++ payload ++ (Chunk.plainLine Line.sentinel)

/-- Puts bytes behind those in a buffer. -/
def put (bytes : Bytes) : Step Bytes WireError Unit :=
  modify (· ++ bytes)

/-- Puts the bytes of a text behind those in a buffer, if it has any. -/
def putText (encoding : Encoding) (text : Text) : Step Bytes WireError Unit := do
  put (← Step.ofExcept (encoding.encode text))

/-- Puts a status line behind what is in a buffer. -/
def putStatus (encoding : Encoding) (status : Status) (info : Text) : Step Bytes WireError Unit := do
  put (status.word.map fun c => UInt8.ofNat c.toNat)
  if info ≠ [] then
    put [32]
    putText encoding info
  put [Line.feed]

/-- Puts what stands between the status line and the sentinel behind what is in a buffer. -/
def putPayload (encoding : Encoding) (chunkSize : Nat) (r : Response) : Step Bytes WireError Unit :=
  match r.status, r.payload with
  | _, .lines lines =>
    lines.forM fun line => do
      putText encoding (Line.stuff line)
      put [Line.feed]
  | .ok, .binary data => put (Chunk.encodeAll chunkSize data)
  | .err, .binary _ => pure ()

/-- Puts a response behind what is in a buffer, its data in chunks of the given size. -/
def encodeInto (encoding : Encoding) (chunkSize : Nat) (r : Response) :
    Step Bytes WireError Unit := do
  -- What was put before a text without bytes stays in the buffer.
  putStatus encoding r.status r.info
  r.putPayload encoding chunkSize
  put (Chunk.plainLine Line.sentinel)

end Response

end AmigaRemote
