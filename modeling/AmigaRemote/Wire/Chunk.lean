import AmigaRemote.Wire.DaemonError
import AmigaRemote.Wire.Encoding
import AmigaRemote.Wire.Line

/-! Transfers of bytes in chunks. A chunk is a header with its length, then so many bytes. -/

namespace AmigaRemote

/-- One step of a transfer. -/
inductive Chunk where
  /-- A header and its bytes. -/
  | data (bytes : Bytes)
  /-- The end line and the sentinel. -/
  | ended
  /-- An error line in place of a chunk, and the sentinel. -/
  | aborted (error : DaemonError)
  deriving DecidableEq, Repr

namespace Chunk

/-- How a chunk header begins. -/
def lead : Text := ['D', 'A', 'T', 'A', ' ']

/-- The line that ends a transfer. -/
def endLine : Text := ['E', 'N', 'D']

/-- The most bytes a chunk may have. -/
def maxSize : Nat := 16 * 1024 * 1024

/-- The chunk size where none is asked for. -/
def defaultSize : Nat := 4096

/-- The length in a chunk header, nothing for other lines. -/
def parseHeader (line : Text) : Except WireError (Option Nat) :=
  -- Other lines are for others to judge, but the lead promises a length.
  match line.after? lead with
  | none => .ok none
  | some digits =>
    match Decimal.nat? (UInt64.size - 1) digits with
    | some length => .ok (some length)
    | none => .error (.malformedChunkHeader line)

/-- The bytes of a line of plain characters, its end included. -/
def plainLine (line : Text) : Bytes :=
  line.map (fun c => UInt8.ofNat c.toNat) ++ [Line.feed]

/-- One chunk: its header, then its bytes. -/
def encode (bytes : Bytes) : Bytes :=
  plainLine (lead ++ Decimal.ofNat bytes.length) ++ bytes

/-- A transfer: the data in chunks of a size, zero standing for the usual one, then the end line. -/
def encodeAll (size : Nat) (data : Bytes) : Bytes :=
  -- No data makes no chunk, so that only the end line is left.
  let pieces :=
    if positive : 0 < size then chunksOf size positive data
    else chunksOf defaultSize (by decide) data
  pieces.flatMap encode ++ plainLine endLine

end Chunk

end AmigaRemote
