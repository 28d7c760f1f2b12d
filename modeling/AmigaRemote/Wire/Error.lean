import AmigaRemote.Text.Quoted
import AmigaRemote.Transport.Fault

/-! What can go wrong between a client and the daemon below the level of replies: the transport
fails, what arrives breaks the framing, or an argument cannot be sent. -/

namespace AmigaRemote

/-- Why an argument is refused before anything is sent. -/
inductive ArgumentFault where
  /-- An argument of the command would end its line early. -/
  | lineBreak (verb : Text)
  /-- The command opens a stream, which a single exchange cannot carry. -/
  | needsSession (verb : Text)
  /-- No encoding has this name. -/
  | unknownEncoding (name : Text)
  deriving DecidableEq, Repr

/-- A failure of the wire. -/
inductive WireError where
  /-- The stream ended where something should have begun. -/
  | connectionClosed
  /-- The stream ended within a line. -/
  | closedMidLine (part : Text)
  /-- The stream ended within a chunk. -/
  | closedMidChunk (expected received : Nat)
  /-- Nothing arrived in time. -/
  | timeout
  /-- The transport failed. -/
  | transport (fault : Fault)
  /-- A status line begins with neither `OK` nor `ERR`. -/
  | unexpectedStatus (line : Text)
  /-- A chunk header has no proper length. -/
  | malformedChunkHeader (line : Text)
  /-- A line that the frame does not admit at this place. -/
  | unexpectedLine (line : Text)
  /-- The first line is no banner. -/
  | invalidBanner (line : Text)
  /-- An argument is refused. -/
  | invalidArgument (why : ArgumentFault)
  /-- A character has no byte in the encoding. -/
  | unencodable (c : Char)
  /-- Too many bytes arrived without a line end. -/
  | lineTooLong (size limit : Nat)
  /-- A chunk announces too many bytes. -/
  | chunkTooLarge (size limit : Nat)
  deriving DecidableEq, Repr

namespace ArgumentFault

/-- The words for a refused argument. -/
def message : ArgumentFault → Text
  | lineBreak verb => "line break in ".toList ++ verb ++ " argument".toList
  | needsSession verb => verb ++ " opens a stream and needs a session".toList
  | unknownEncoding name => "Unknown encoding: ".toList ++ name

end ArgumentFault

namespace WireError

/-- How a failure of the transport counts: running out of time and the end of the stream have
names of their own. -/
def ofFault (fault : Fault) : WireError :=
  match fault.kind with
  -- Systems report the end of a wait under either name.
  | .wouldBlock | .timedOut => .timeout
  | .unexpectedEnd => .connectionClosed
  | _ => .transport fault

/-- The words for a failure of the wire. -/
def message : WireError → Text
  | connectionClosed => "Connection closed by server".toList
  | closedMidLine part =>
    "Connection closed mid-line (partial: ".toList ++ Quoted.text part ++ ")".toList
  | closedMidChunk expected received =>
    "Connection closed mid-chunk: expected ".toList ++ Decimal.ofNat expected
      ++ " bytes, received ".toList ++ Decimal.ofNat received
  | timeout => "Timed out waiting for server".toList
  | transport fault => "I/O error: ".toList ++ fault.message
  | unexpectedStatus line => "Expected OK or ERR, got ".toList ++ Quoted.text line
  | malformedChunkHeader line => "Malformed chunk header: ".toList ++ Quoted.text line
  | unexpectedLine line => "Unexpected line in response: ".toList ++ Quoted.text line
  | invalidBanner line => "Invalid banner: ".toList ++ Quoted.text line
  | invalidArgument why => "Invalid argument: ".toList ++ why.message
  | unencodable c => "Character ".toList ++ Quoted.char c ++ " cannot be encoded".toList
  | lineTooLong size limit =>
    "Line too long: ".toList ++ Decimal.ofNat size ++ " > ".toList ++ Decimal.ofNat limit
  | chunkTooLarge size limit =>
    "Chunk too large: ".toList ++ Decimal.ofNat size ++ " > ".toList ++ Decimal.ofNat limit

/-- Whether the failure happened before anything was sent, so that the connection stays in step. -/
def beforeSending : WireError → Bool
  | invalidArgument _ => true
  | unencodable _ => true
  | _ => false

end WireError

end AmigaRemote
