import AmigaRemote.Transport.Sink
import AmigaRemote.Wire.Command

/-! Sending commands. -/

namespace AmigaRemote.Sink

/-- Writes all bytes, with failures as the wire knows them. -/
def transmit (s : Sink) (bytes : Bytes) : Except WireError Unit × Sink :=
  match s.send bytes with
  | (.ok (), s) => (.ok (), s)
  | (.error fault, s) => (.error (.ofFault fault), s)

/-- Writes a whole command. One that has no bytes in the encoding leaves the sink alone. -/
def sendCommand (s : Sink) (encoding : Encoding) (c : Command) : Except WireError Unit × Sink :=
  -- All bytes are known before the first one is written.
  match c.encode encoding with
  | .error e => (.error e, s)
  | .ok bytes => s.transmit bytes

end AmigaRemote.Sink
