import AmigaRemote.Text.Space
import AmigaRemote.Wire.DaemonError
import AmigaRemote.Wire.Encoding

/-! What a stream delivers, and the notices that the daemon sends among the data of a trace. -/

namespace AmigaRemote

/-- One item of a stream. -/
inductive StreamEvent where
  /-- The bytes of one chunk. -/
  | data (bytes : Bytes)
  /-- A remark of the daemon. -/
  | comment (text : Text)
  /-- The stream came to its end. -/
  | ended
  /-- The daemon broke the stream off. -/
  | aborted (error : DaemonError)
  deriving DecidableEq, Repr

namespace StreamEvent

/-- The byte that a remark begins with. -/
def commentMark : UInt8 := 35

/-- A chunk is a remark if remarks are expected and it begins with the mark. Line ends after a
remark are no part of it. -/
def ofChunk (bytes : Bytes) (comments : Bool) (encoding : Encoding) : StreamEvent :=
  -- The mark is looked for before decoding, so the encoding does not matter.
  if comments ∧ bytes.head? = some commentMark then
    .comment ((encoding.decode bytes).trimEndOf fun c => c = '\r' || c = '\n')
  else .data bytes

end StreamEvent

/-- What a remark of the daemon says. -/
inductive Notice where
  /-- The traced program ended. -/
  | processExited (rc : Int32)
  /-- Events were lost. -/
  | overflow (dropped : UInt64)
  /-- Any other remark, without its mark. -/
  | other (text : Text)
  deriving DecidableEq, Repr

/-- The number after the first word of the form `rc=`, nothing if that is no number. -/
def returnCode? (text : Text) : Option Int32 :=
  (text.words.findSome? fun word => word.after? "rc=".toList).bind Decimal.int32?

namespace Notice

/-- What a remark says once its mark and the white space around it are gone. -/
def ofBody (body : Text) : Notice :=
  -- A remark that begins like a notice but lacks its number is any other remark.
  match (body.after? "PROCESS EXITED".toList).bind returnCode? with
  | some rc => .processExited rc
  | none =>
    let count? := (body.after? "OVERFLOW".toList).bind fun rest =>
      rest.words.head?.bind Decimal.uint64?
    match count? with
    | some dropped => .overflow dropped
    | none => .other body

/-- What a remark says. -/
def parse (comment : Text) : Notice :=
  ofBody ((comment.after? ['#']).getD comment).trim

end Notice

end AmigaRemote
