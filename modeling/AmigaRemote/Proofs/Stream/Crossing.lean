import AmigaRemote.Proofs.Wire.Framing
import AmigaRemote.Stream.Session

/-! A stream seen from both ends. The thread of the session reads events, other threads may stop the
stream at any time, the daemon sends what it likes within its contract, and bytes are on their way
in both directions. -/

namespace AmigaRemote

/-- Where the thread of a session is. A chunk is taken and looked at in separate steps, so that a
stop may come in between. -/
inductive Point where
  | idle
  /-- A chunk was taken, and nothing has been made of it. -/
  | took (taken : Except WireError Chunk)
  /-- The stream is known to be over, and the way back to commands is still to be gone. -/
  | leaving (event : StreamEvent)

/-- What a daemon is busy with. -/
inductive Duty where
  | streaming
  | commands
  deriving DecidableEq

namespace Session

/-- The session once its thread made one step. -/
def advance (s : Session) : Point → Point × Session
  | .idle =>
    if s.stream.isOver then (.idle, s)
    else
      let (taken, s) := awaitChunk s
      (.took taken, s)
  | .took (.ok .ended) =>
    (.leaving .ended, { s with stream := { s.stream.disarm with state := .stopped } })
  | .took (.ok (.aborted e)) =>
    (.leaving (.aborted e),
      { s with stream := { s.stream.endByItself with state := .failed, failure := some e } })
  | .took taken => (.idle, (process taken s).2)
  | .leaving _ => (.idle, (finish s).2)

/-- One step of the thread, wherever it is. -/
def thread (place : Point × Session) : Point × Session :=
  place.2.advance place.1

/-- The way back to commands is the last thing a chunk that ends the stream brings about. -/
theorem process_ending {change : Stream → Stream} {event : StreamEvent} (s : Session) :
    ((do update change; finish; return event : Streaming StreamEvent) s).2
      = (finish { s with stream := change s.stream }).2 := by
  simp only [Step.bind_apply, update, Step.modify_apply]
  -- Nothing but the event is made of the outcome.
  split
  all_goals
    rename_i found
    rw [found]
  rfl

/-- The thread goes through the next event in one step at least and three at most. -/
theorem nextEvent_thread (s : Session) :
    ∃ n, (1 ≤ n ∧ n ≤ 3) ∧ Nat.repeat thread n (.idle, s) = (.idle, (nextEvent s).2) := by
  by_cases isOver : s.stream.isOver = true
  · -- Where nothing follows, the thread waits on.
    refine ⟨1, by decide, ?_⟩
    simp [Nat.repeat, thread, advance, nextEvent, isOver]
  · rcases found : awaitChunk s with ⟨taken, next⟩
    have first : thread (.idle, s) = (.took taken, next) := by
      simp [thread, advance, isOver, found]
    have event : (nextEvent s).2 = (process taken next).2 := by
      simp only [nextEvent, isOver, found]
      change ((process taken >>= fun event => pure (some event)) next).2 = _
      rw [Step.bind_apply]
      split
      all_goals
        rename_i outcome
        rw [outcome]
      rfl
    rw [event]
    match taken with
    | .error e => exact ⟨2, by decide, by simp only [Nat.repeat, first]; rfl⟩
    | .ok (.data bytes) => exact ⟨2, by decide, by simp only [Nat.repeat, first]; rfl⟩
    -- What ends a stream is followed by the way back to commands.
    | .ok .ended =>
      refine ⟨3, by decide, ?_⟩
      simp only [Nat.repeat, first]
      exact congrArg (Prod.mk Point.idle) (@process_ending
        (fun stream => { stream.disarm with state := .stopped }) .ended next).symm
    | .ok (.aborted e) =>
      refine ⟨3, by decide, ?_⟩
      simp only [Nat.repeat, first]
      exact congrArg (Prod.mk Point.idle) (@process_ending
        (fun stream => { stream.endByItself with state := .failed, failure := some e })
        (.aborted e) next).symm

end Session

/-- The bytes of a stop. -/
def stopLine : Bytes :=
  Chunk.plainLine Command.stop.verb

/-- A stop has bytes in every encoding. -/
theorem encode_stop (encoding : Encoding) : Command.stop.encode encoding = .ok stopLine := by
  -- The line is plain text, which both encodings write alike.
  cases encoding <;> rfl

/-- A stream seen from both ends. -/
structure Crossing where
  session : Session
  point : Point
  daemon : Duty
  /-- What the daemon has got of what was written. -/
  heard : Bytes
  /-- What the daemon has sent and has not arrived. -/
  outbox : Bytes

namespace Crossing

/-- All that was ever written to the daemon. -/
def written (x : Crossing) : Bytes :=
  x.session.connection.sink.taken

/-- The encoding of the connection. -/
def encoding (x : Crossing) : Encoding :=
  x.session.connection.settings.encoding

/-- Whether data tells the end of the program that a stream is about. -/
def TellsExit (kind : StreamKind) (encoding : Encoding) (bytes : Bytes) : Prop :=
  kind.endsOnExit = true ∧
    Session.tellsExit (StreamEvent.ofChunk bytes kind.hasComments encoding) = true

instance (kind : StreamKind) (encoding : Encoding) (bytes : Bytes) :
    Decidable (TellsExit kind encoding bytes) :=
  inferInstanceAs (Decidable (_ ∧ _))

/-- A stream at its beginning, with nothing on its way. -/
def start (s : Session) : Crossing where
  session := s
  point := .idle
  daemon := .streaming
  heard := s.connection.sink.taken
  outbox := []

/-- The crossing once the thread of the session made one step. -/
def advanced (x : Crossing) : Crossing :=
  { x with point := (x.session.advance x.point).1, session := (x.session.advance x.point).2 }

/-- What can happen next. -/
inductive Next : Crossing → Crossing → Prop where
  /-- Bytes arrive, in whatever pieces, and whatever reads will meet behind them. -/
  | arrive {x : Crossing} {reader : Reader} {piece later : Bytes}
    (sent : x.outbox = piece ++ later)
    (arrived : reader.unread = x.session.connection.reader.unread ++ piece)
    (kept : reader.encoding = x.session.connection.reader.encoding) :
    Next x { x with
      session := { x.session with connection := { x.session.connection with reader } }
      outbox := later }
  /-- The daemon sends data. Only at the end of its program it tells so. -/
  | data {x : Crossing} {bytes frame : Bytes} (streams : x.daemon = .streaming)
    (ordinary : ¬TellsExit x.session.stream.kind x.encoding bytes)
    (isData : ChunkFrame x.encoding (.data bytes) frame) :
    Next x { x with outbox := x.outbox ++ frame }
  /-- The daemon breaks the stream off. -/
  | refuse {x : Crossing} {e : DaemonError} {frame : Bytes} (streams : x.daemon = .streaming)
    (isError : ChunkFrame x.encoding (.aborted e) frame) :
    Next x { x with daemon := .commands, outbox := x.outbox ++ frame }
  /-- The program ends, of which the daemon tells, and with it the stream. -/
  | exit {x : Crossing} {bytes notice last : Bytes} (streams : x.daemon = .streaming)
    (tells : TellsExit x.session.stream.kind x.encoding bytes)
    (isNotice : ChunkFrame x.encoding (.data bytes) notice)
    (isEnd : ChunkFrame x.encoding .ended last) :
    Next x { x with daemon := .commands, outbox := x.outbox ++ (notice ++ last) }
  /-- The daemon gets a stop while it streams, and ends the stream. -/
  | stopped {x : Crossing} {rest frame : Bytes} (streams : x.daemon = .streaming)
    (got : x.written = x.heard ++ stopLine ++ rest) (isEnd : ChunkFrame x.encoding .ended frame) :
    Next x { x with
      daemon := .commands, heard := x.heard ++ stopLine, outbox := x.outbox ++ frame }
  /-- The daemon gets any line while it takes commands, and answers it. -/
  | answer {x : Crossing} {line rest frame : Bytes} {response : Response}
    (waits : x.daemon = .commands) (free : Line.feed ∉ line)
    (got : x.written = x.heard ++ (line ++ [Line.feed]) ++ rest)
    (isResponse : ResponseFrame x.encoding response frame) :
    Next x { x with heard := x.heard ++ (line ++ [Line.feed]), outbox := x.outbox ++ frame }
  /-- The thread of the session makes a step. -/
  | advance (x : Crossing) : Next x x.advanced
  /-- The thread of the session stops the stream. -/
  | stop {x : Crossing} (idle : x.point = .idle) : Next x { x with session := x.session.stop.2 }
  /-- Another thread stops the stream. -/
  | stopElsewhere (x : Crossing) : Next x { x with session := x.session.stopElsewhere.2 }

/-- What can come about in the end. -/
inductive Reach : Crossing → Crossing → Prop where
  | here (x : Crossing) : Reach x x
  | next {x y z : Crossing} (before : Reach x y) (step : Next y z) : Reach x z

end Crossing
end AmigaRemote
