import AmigaRemote.Text.Decimal

/-! Failures reported by the transport and by the file system. -/

namespace AmigaRemote

/-- What kind of failure it was. -/
inductive FaultKind where
  | wouldBlock
  | timedOut
  | unexpectedEnd
  | interrupted
  | connectionReset
  | connectionAborted
  | connectionRefused
  | notConnected
  | brokenPipe
  | permissionDenied
  | invalidData
  | writeZero
  | notFound
  | isDirectory
  | notDirectory
  | nameTooLong
  | other
  deriving DecidableEq, Repr

/-- A failure as it was reported. -/
inductive Fault where
  /-- Known by its kind alone. -/
  | ofKind (kind : FaultKind)
  /-- Reported by the operating system. -/
  | system (kind : FaultKind)
  /-- A write took no byte of what was left to write. -/
  | unfinishedWrite
  /-- A file that should hold text is not well-formed UTF-8. -/
  | notText
  deriving DecidableEq, Repr

namespace FaultKind

/-- The words for a failure known by its kind alone. -/
def describe : FaultKind → Text
  | wouldBlock => "operation would block".toList
  | timedOut => "timed out".toList
  | unexpectedEnd => "unexpected end of file".toList
  | interrupted => "operation interrupted".toList
  | connectionReset => "connection reset".toList
  | connectionAborted => "connection aborted".toList
  | connectionRefused => "connection refused".toList
  | notConnected => "not connected".toList
  | brokenPipe => "broken pipe".toList
  | permissionDenied => "permission denied".toList
  | invalidData => "invalid data".toList
  | writeZero => "write zero".toList
  | notFound => "entity not found".toList
  | isDirectory => "is a directory".toList
  | notDirectory => "not a directory".toList
  | nameTooLong => "invalid filename".toList
  | other => "other error".toList

/-- The operating system's words and number for a failure. -/
def systemMessage : FaultKind → Text × Nat
  | wouldBlock => ("Resource temporarily unavailable".toList, 11)
  | timedOut => ("Connection timed out".toList, 110)
  | unexpectedEnd => ("No data available".toList, 61)
  | interrupted => ("Interrupted system call".toList, 4)
  | connectionReset => ("Connection reset by peer".toList, 104)
  | connectionAborted => ("Software caused connection abort".toList, 103)
  | connectionRefused => ("Connection refused".toList, 111)
  | notConnected => ("Transport endpoint is not connected".toList, 107)
  | brokenPipe => ("Broken pipe".toList, 32)
  | permissionDenied => ("Permission denied".toList, 13)
  | invalidData => ("Invalid argument".toList, 22)
  | writeZero => ("No space left on device".toList, 28)
  | notFound => ("No such file or directory".toList, 2)
  | isDirectory => ("Is a directory".toList, 21)
  | notDirectory => ("Not a directory".toList, 20)
  | nameTooLong => ("File name too long".toList, 36)
  | other => ("Input/output error".toList, 5)

end FaultKind

namespace Fault

/-- The kind of a failure. -/
def kind : Fault → FaultKind
  | ofKind kind => kind
  | system kind => kind
  | unfinishedWrite => .writeZero
  | notText => .invalidData

/-- The words for a failure. -/
def message : Fault → Text
  | ofKind kind => kind.describe
  | system kind =>
    let (words, number) := kind.systemMessage
    words ++ " (os error ".toList ++ Decimal.ofNat number ++ ")".toList
  | unfinishedWrite => "failed to write whole buffer".toList
  | notText => "stream did not contain valid UTF-8".toList

end Fault

end AmigaRemote
