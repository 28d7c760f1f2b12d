import AmigaRemote.Client.Connection
import AmigaRemote.Text.Space

/-! Uploads. The daemon says that it is ready before it gets the data, or that it cannot take it. -/

namespace AmigaRemote.Connection

/-- The line with which the daemon asks for the data. -/
def readyLine : Text := "READY".toList

/-- Reads what stands in place of the ready line: an error and nothing else. -/
def refuseUpload {α : Type} (line : Text) : Client α := do
  match Status.parseLine line with
  | .ok (.err, info) =>
    receive Reader.expectSentinel
    throw (.daemon (.ofInfo info))
  -- Neither ready nor refused: nobody knows what the daemon is doing.
  | _ => breakOff (.unexpectedLine line)

/-- The size in the info of the last reply, which is that of the data if nothing else is said. -/
def acknowledged (size : UInt64) (info : Text) : Client UInt64 :=
  -- What the daemon says counts, even if it differs from what was sent.
  if info = [] then pure size
  else match Decimal.uint64? info.trim with
    | some taken => pure taken
    | none => throw (.unexpectedReply (.acknowledgement info))

/-- Uploads a file and tells how many bytes the daemon took. -/
def write (path : Text) (data : Bytes) : Client UInt64 := do
  let size := UInt64.ofNat data.length
  send (.write path size)
  let line ← receive Reader.readLine
  if line ≠ readyLine then refuseUpload line
  else
    -- Only now does the daemon wait for data.
    transmit fun sink => sink.transmit (Chunk.encodeAll Chunk.defaultSize data)
    let response ← accept (← receive Reader.readResponse)
    acknowledged size response.info

end AmigaRemote.Connection
