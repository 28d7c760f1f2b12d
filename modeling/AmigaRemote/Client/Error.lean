import AmigaRemote.Reply.Fault
import AmigaRemote.Wire.DaemonError
import AmigaRemote.Wire.Error

/-! Why a client gives up an operation. -/

namespace AmigaRemote

/-- Why a client gives up an operation. -/
inductive ClientError where
  /-- No connection comes about. -/
  | unreachable (address : Text) (fault : Fault)
  /-- The wire failed, or an argument cannot be sent. -/
  | wire (e : WireError)
  /-- The daemon reports an error. -/
  | daemon (e : DaemonError)
  /-- The connection was closed or broke earlier. -/
  | closed
  /-- The reply is complete but cannot be understood. -/
  | unexpectedReply (fault : ReplyFault)
  deriving DecidableEq, Repr

namespace ClientError

/-- The words for an error. -/
def message : ClientError → Text
  | unreachable address fault =>
    "Failed to connect to ".toList ++ address ++ ": ".toList ++ fault.message
  | wire e => e.message
  | daemon e => e.message
  | closed => "Connection is closed".toList
  | unexpectedReply fault => "Unexpected response: ".toList ++ fault.message

/-- Whether the connection is of no more use. What the daemon says and what it never got to see
leave the connection in step. -/
def isFatal : ClientError → Bool
  | daemon _ => false
  | unexpectedReply _ => false
  -- These two are found before the first byte is sent.
  | wire (.invalidArgument _) => false
  | wire (.unencodable _) => false
  | _ => true

/-- The error that the daemon reports, if it reports one. -/
def daemonError? : ClientError → Option DaemonError
  | daemon e => some e
  | _ => none

end ClientError

end AmigaRemote
