import AmigaRemote.Stream.Consumption

/-! Streams read to their end, and what becomes of a stream that is given up before. -/

namespace AmigaRemote.Session

/-- All events that follow, after those at hand, last one first. A failure is the last of them. -/
def collectAfter (events : List (Except ClientError StreamEvent)) (s : Session) :
    List (Except ClientError StreamEvent) × Session :=
  -- Every event leaves less to read, so there is a last one.
  match found : nextEvent s with
  | (.ok none, s) => (events.reverse, s)
  | (.error e, s) => ((.error e :: events).reverse, s)
  | (.ok (some event), after) =>
    have := nextEvent_shortens found
    collectAfter (.ok event :: events) after
termination_by s.unread.length

/-- All events that follow. A failure is the last of them. -/
def collect (s : Session) : List (Except ClientError StreamEvent) × Session :=
  collectAfter [] s

/-- Reads events up to the end of the stream and forgets them. -/
def discard (s : Session) : Except ClientError Unit × Session :=
  match found : nextEvent s with
  | (.ok none, s) => (.ok (), s)
  | (.error e, s) => (.error e, s)
  | (.ok (some _), after) =>
    have := nextEvent_shortens found
    discard after
termination_by s.unread.length

/-- Stops the stream and reads it to its end. -/
def cancel : Streaming StreamState := do
  -- Events that are on their way come before the end, and are forgotten.
  stop
  discard
  return (← get).stream.state

/-- The session after its last use. A stream that still runs is cancelled, whatever comes of it. -/
def release (s : Session) : Session :=
  -- Over a connection that is of no use nothing can be stopped.
  if s.stream.isOver ∨ s.connection.health ≠ .ready then s else (cancel s).2

end AmigaRemote.Session
