import AmigaRemote.Wire.Encoding

/-! What a client has to know to reach the daemon and to talk to it. -/

namespace AmigaRemote

/-- The settings of a connection. A wait of zero seconds is a wait without limit. -/
structure Settings where
  host : Text
  port : UInt16
  /-- Seconds to wait for a reply. -/
  timeout : UInt64
  /-- Seconds to wait between the events of a stream. -/
  streamTimeout : UInt64
  encoding : Encoding
  deriving DecidableEq, Repr

namespace Settings

/-- What holds where nothing else is asked for. A stream may stay quiet for ever. -/
def usual : Settings where
  host := "127.0.0.1".toList
  port := 6800
  timeout := 30
  streamTimeout := 0
  encoding := .latin1

/-- Host and port with a colon between them. -/
def address (s : Settings) : Text :=
  s.host ++ ':' :: Decimal.ofNat s.port.toNat

/-- The seconds of a wait, none if it has no limit. -/
def limit? (seconds : UInt64) : Option UInt64 :=
  -- A wait of no time at all would be of no use, so zero is free to mean the opposite.
  if seconds = 0 then none else some seconds

/-- The limit of a wait for a reply. -/
def replyLimit? (s : Settings) : Option UInt64 :=
  limit? s.timeout

/-- The limit of a wait between the events of a stream. -/
def streamLimit? (s : Settings) : Option UInt64 :=
  limit? s.streamTimeout

end Settings

end AmigaRemote
