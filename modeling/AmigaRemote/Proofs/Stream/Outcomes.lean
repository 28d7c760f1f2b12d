import AmigaRemote.Proofs.Stream.CrossingInvariant
import AmigaRemote.Proofs.Stream.Health
import AmigaRemote.Proofs.Wire.Blocks
import AmigaRemote.Stream.Run

/-! All that can come of the next event of a stream, by what is read for it, and of a stop, by what
is written for it. -/

namespace AmigaRemote

/-- The event with which a stream ends: its end, or an error. -/
def StreamEvent.ofEnd : Option DaemonError → StreamEvent
  | none => .ended
  | some e => .aborted e

/-- The stream once its end was looked at. -/
def Stream.conclude (stream : Stream) : Option DaemonError → Stream
  | none => { stream.disarm with state := .stopped }
  -- An error comes from the daemon alone, so a stop that was sent has crossed it.
  | some e => { stream.endByItself with state := .failed, failure := some e }

/-- The stream once a block was looked at. -/
def Stream.pass (stream : Stream) (encoding : Encoding) (body : Bytes) : Stream :=
  if Crossing.TellsExit stream.kind encoding body then stream.endByItself else stream

/-- A block leaves a stream going on as it was. -/
@[simp] theorem Stream.pass_state (stream : Stream) (encoding : Encoding) (body : Bytes) :
    (stream.pass encoding body).state = stream.state := by
  -- A notice changes the phase and what was crossed, and anything else changes nothing.
  unfold pass
  split <;> rfl

/-- A block leaves a stream of the kind that it was. -/
@[simp] theorem Stream.pass_kind (stream : Stream) (encoding : Encoding) (body : Bytes) :
    (stream.pass encoding body).kind = stream.kind := by
  -- As for the state.
  unfold pass
  split <;> rfl

/-- A stream whose end was looked at is over. -/
theorem Stream.conclude_isOver (stream : Stream) (why : Option DaemonError) :
    (stream.conclude why).isOver = true := by
  -- Whatever the reason is, it is stopped or failed.
  cases why <;> rfl

/-- No stop may be sent once the end was looked at. -/
@[simp] theorem Stream.conclude_phase (stream : Stream) (why : Option DaemonError) :
    (stream.conclude why).phase = .disarmed := by
  -- Both reasons disarm it.
  cases why <;> rfl

/-- Nobody has the right to a stop once the end was looked at. -/
theorem Stream.conclude_unarmed (stream : Stream) (why : Option DaemonError) :
    (stream.conclude why).phase ≠ .armed := by
  -- It is disarmed, which is another phase.
  rw [conclude_phase]
  decide

/-- A stream whose end was looked at is of the kind that it was. -/
@[simp] theorem Stream.conclude_kind (stream : Stream) (why : Option DaemonError) :
    (stream.conclude why).kind = stream.kind := by
  -- Neither reason changes the kind.
  cases why <;> rfl

/-- A stream goes on exactly as long as it is not over. -/
theorem Stream.isOver_eq_false {stream : Stream} :
    stream.isOver = false ↔ stream.state = .streaming := by
  -- To be over is defined as not to stream.
  simp [isOver]

/-- A stream that is broken is over. -/
theorem Stream.isOver_of_broken {stream : Stream} (broken : stream.state = .broken) :
    stream.isOver = true := by
  -- As above, for one state that is another.
  simp [isOver, broken]

namespace Session

variable {s : Session} {reader : Reader}

/-- The event that a block of a stream is. -/
def eventOf (s : Session) (body : Bytes) : StreamEvent :=
  .ofChunk body s.stream.kind.hasComments s.connection.settings.encoding

/-- The session once a block was read and looked at. -/
def pass (s : Session) (body : Bytes) (reader : Reader) : Session where
  connection := { s.connection with reader }
  stream := s.stream.pass s.connection.settings.encoding body

/-- The session once the end of its stream was read and looked at. -/
def conclude (s : Session) (why : Option DaemonError) (reader : Reader) : Session where
  connection := { s.connection with reader }
  stream := s.stream.conclude why

/-- The session back at commands, with the reader as it was left. -/
def home (s : Session) (reader : Reader) : Session :=
  { s with connection := { s.connection with
    waitLimit? := s.connection.settings.replyLimit?, reader } }

/-- The session that did not find its way back to commands. -/
def cutOff (s : Session) (reader : Reader) : Session where
  connection := { s.connection with
    waitLimit? := s.connection.settings.replyLimit?, reader, health := .broken }
  stream := { s.stream with state := .broken }

/-- The session that failed to read. -/
def lose (s : Session) (reader : Reader) : Session where
  connection := { s.connection with reader, health := .broken }
  stream := { s.stream.disarm with state := .broken }

/-- What is read on the way back to commands, if anything is: the answer to a late stop. -/
inductive ReadsLate (crossedStop : Bool) (r : Reader) : Reader → Prop where
  | nothing (uncrossed : crossedStop = false) : ReadsLate crossedStop r r
  | answer {response : Response} {after : Reader} (crossed : crossedStop = true)
    (read : Reader.readResponse r = (.ok response, after)) : ReadsLate crossedStop r after

/-- The way back to commands is gone, or the answer to a late stop does not come. -/
theorem finish_cases (s : Session) :
    (∃ reader, ReadsLate s.stream.crossedStop s.connection.reader reader ∧
        finish s = (.ok (), s.home reader)) ∨
      ∃ e reader, s.stream.crossedStop = true ∧
        Reader.readResponse s.connection.reader = (.error e, reader) ∧
        finish s = (.error (.wire e), s.cutOff reader) := by
  -- Only a stop that was crossed has an answer to be read.
  cases crossed : s.stream.crossedStop with
  | false => exact .inl ⟨_, .nothing rfl, finish_uncrossed crossed⟩
  | true =>
    rcases read : Reader.readResponse s.connection.reader with ⟨e | response, reader⟩
    · have late := Reader.readResponse_failsOnWire read
      exact .inr ⟨e, reader, rfl, rfl, finish_unanswered crossed late read⟩
    · exact .inl ⟨reader, .answer rfl read, finish_answered crossed read⟩

/-- A block that was read is the next event. -/
theorem nextEvent_block {body : Bytes} (streams : s.stream.state = .streaming)
    (read : Reader.readChunk s.connection.reader = (.ok (.data body), reader)) :
    nextEvent s = (.ok (some (s.eventOf body)), s.pass body reader) := by
  -- The stream goes on, so that the call reads a chunk, and a block changes no connection.
  have goesOn : s.stream.isOver = false := Stream.isOver_eq_false.mpr streams
  simp only [nextEvent, goesOn, awaitChunk, read]
  rfl

/-- The end of a stream that was read leads back to commands, and is the last event. -/
theorem nextEvent_ofEnd {why : Option DaemonError} (streams : s.stream.state = .streaming)
    (read : Reader.readChunk s.connection.reader = (.ok (.ofEnd why), reader)) :
    nextEvent s = (do finish; return some (.ofEnd why) : Streaming _) (s.conclude why reader) := by
  have goesOn : s.stream.isOver = false := Stream.isOver_eq_false.mpr streams
  simp only [nextEvent, goesOn, awaitChunk, read]
  -- To note the end in the stream is what comes before the way back.
  have noted : process (.ok (.ofEnd why)) { s with connection := { s.connection with reader } }
      = (do finish; return .ofEnd why : Streaming _) (s.conclude why reader) := by
    cases why <;> rfl
  change ((process _ >>= fun event => pure (some event)) _) = _
  rw [Step.bind_apply, noted, Step.bind_apply, Step.bind_apply]
  rcases finish (s.conclude why reader) with ⟨_ | _, after⟩ <;> rfl

/-- The end of a stream is its last event, unless the answer to a late stop does not come. -/
theorem nextEvent_ofEnd_cases {why : Option DaemonError} (streams : s.stream.state = .streaming)
    (read : Reader.readChunk s.connection.reader = (.ok (.ofEnd why), reader)) :
    (∃ after, ReadsLate (s.stream.conclude why).crossedStop reader after ∧
        nextEvent s = (.ok (some (.ofEnd why)), (s.conclude why reader).home after)) ∨
      ∃ e after, (s.stream.conclude why).crossedStop = true ∧
        Reader.readResponse reader = (.error e, after) ∧
        nextEvent s = (.error (.wire e), (s.conclude why reader).cutOff after) := by
  -- Behind the end the session finishes, which has two outcomes.
  rw [nextEvent_ofEnd streams read, Step.bind_apply]
  rcases finish_cases (s.conclude why reader) with
    ⟨after, late, done⟩ | ⟨e, after, crossed, failed, done⟩
  · rw [done]
    exact .inl ⟨after, late, rfl⟩
  · rw [done]
    exact .inr ⟨e, after, crossed, failed, rfl⟩

/-- What fails to be read is a failure, and breaks the stream and its connection. -/
theorem nextEvent_lost {e : WireError} (streams : s.stream.state = .streaming)
    (read : Reader.readChunk s.connection.reader = (.error e, reader)) :
    nextEvent s = (.error (.wire e), s.lose reader) := by
  -- The stream goes on, so that the call reads a chunk and fails with it.
  have goesOn : s.stream.isOver = false := Stream.isOver_eq_false.mpr streams
  have late := Reader.readChunk_failsOnWire read
  -- The failure is judged once it was read, when the sending is long past.
  have failed : process (.error e) { s with connection := { s.connection with reader } }
      = (.error (.wire e), s.lose reader) := by
    simp [process, Step.bind_apply, update, onConnection, Connection.guard, late,
      Connection.breakOff, lose]
  simp only [nextEvent, goesOn, awaitChunk, read]
  exact Step.bind_error failed _

/-- A thread that looks at a block waits for the next chunk after it. -/
theorem advance_data (s : Session) (body : Bytes) :
    s.advance (.took (.ok (.data body))) = (.idle, s.pass body s.connection.reader) :=
  -- Data leads back to the point at which a chunk is waited for.
  rfl

/-- A thread that looks at the end of a stream has still to go back to commands. -/
theorem advance_ofEnd (s : Session) (why : Option DaemonError) :
    s.advance (.took (.ok (.ofEnd why)))
      = (.leaving (.ofEnd why), s.conclude why s.connection.reader) := by
  -- Both ends lead to the way back.
  cases why <;> rfl

/-- A thread that could not take a chunk breaks the stream and its connection. -/
theorem advance_lost {e : WireError} (late : e.beforeSending = false) :
    s.advance (.took (.error e)) = (.idle, s.lose s.connection.reader) := by
  -- The failure comes late, so that the guard breaks the connection.
  simp [advance, process, Step.bind_apply, update, onConnection, Connection.guard, late,
    Connection.breakOff, lose]

/-- All that the next event of a stream that goes on can be. -/
inductive Happens (s : Session) : Except ClientError (Option StreamEvent) × Session → Prop where
  | block {body : Bytes} {reader : Reader}
    (read : Reader.readChunk s.connection.reader = (.ok (.data body), reader)) :
    Happens s (.ok (some (s.eventOf body)), s.pass body reader)
  /-- The stream ends, and so does the way back to commands. -/
  | concluded {why : Option DaemonError} {reader after : Reader}
    (read : Reader.readChunk s.connection.reader = (.ok (.ofEnd why), reader))
    (late : ReadsLate (s.stream.conclude why).crossedStop reader after) :
    Happens s (.ok (some (.ofEnd why)), (s.conclude why reader).home after)
  /-- The stream ends, but the answer to a late stop does not come. -/
  | unanswered {why : Option DaemonError} {e : WireError} {reader after : Reader}
    (read : Reader.readChunk s.connection.reader = (.ok (.ofEnd why), reader))
    (crossed : (s.stream.conclude why).crossedStop = true)
    (failed : Reader.readResponse reader = (.error e, after)) :
    Happens s (.error (.wire e), (s.conclude why reader).cutOff after)
  | lost {e : WireError} {reader : Reader}
    (read : Reader.readChunk s.connection.reader = (.error e, reader)) :
    Happens s (.error (.wire e), s.lose reader)

/-- The next event of a stream that goes on is a block, an end or a failure. -/
theorem nextEvent_happens (streams : s.stream.state = .streaming) : Happens s (nextEvent s) := by
  rcases read : Reader.readChunk s.connection.reader with ⟨e | chunk, reader⟩
  · exact nextEvent_lost streams read ▸ .lost read
  · rcases chunk.block_or_end with ⟨body, rfl⟩ | ⟨why, rfl⟩
    · exact nextEvent_block streams read ▸ .block read
    · -- What is read on the way back decides between the last two kinds of ends.
      rcases nextEvent_ofEnd_cases streams read with
        ⟨after, late, done⟩ | ⟨e, after, crossed, failed, done⟩
      · exact done ▸ .concluded read late
      · exact done ▸ .unanswered read crossed failed

/-- The next event keeps of the reader what readings keep. -/
theorem nextEvent_keeps {property : Reader → Prop} (preserved : Reader.Preserved property) :
    Step.Keeps (fun s : Session => property s.connection.reader) nextEvent := by
  intro s holds
  by_cases isOver : s.stream.isOver = true
  · rwa [nextEvent_over isOver]
  · have happens := nextEvent_happens (Stream.isOver_eq_false.mp (by simpa using isOver))
    -- A chunk is read each time, and behind the end of the stream there may be a response.
    have taken := preserved.readChunk holds
    generalize nextEvent s = outcome at happens ⊢
    cases happens with
    | block read =>
      rw [read] at taken
      exact taken
    | concluded read late =>
      rw [read] at taken
      cases late with
      | nothing => exact taken
      | answer _ answered =>
        have kept := preserved.readResponse taken
        rwa [answered] at kept
    | unanswered read _ failed =>
      rw [read] at taken
      have kept := preserved.readResponse taken
      rwa [failed] at kept
    | lost read =>
      rw [read] at taken
      exact taken

/-- The session once a stop was written. -/
def asked (s : Session) (sink : Sink) : Session where
  connection := { s.connection with sink, waitLimit? := s.connection.settings.replyLimit? }
  stream := { s.stream with phase := .sent }

/-- The session once a stop could not be written. -/
def unasked (s : Session) (sink : Sink) : Session :=
  { s with connection := { s.connection with sink } }

/-- The session that was to write a stop itself, and could not. -/
def fallOut (s : Session) (sink : Sink) : Session where
  connection := { s.connection with sink, health := .broken }
  stream := { s.stream with state := .broken }

/-- All that can come of asking for a stop. -/
inductive Requested (s : Session) : Except WireError Unit × Session → Prop where
  | unarmed (unarmed : s.stream.phase ≠ .armed) : Requested s (.ok (), s)
  | written {sink : Sink} (armed : s.stream.phase = .armed)
    (attempt : s.connection.sink.sendCommand s.connection.settings.encoding .stop
      = (.ok (), sink)) : Requested s (.ok (), s.asked sink)
  | refused {e : WireError} {sink : Sink} (armed : s.stream.phase = .armed)
    (attempt : s.connection.sink.sendCommand s.connection.settings.encoding .stop
      = (.error e, sink)) : Requested s (.error e, s.unasked sink)

/-- A stop is written, or cannot be, or there is nothing to be done. -/
theorem requestStop_requested (s : Session) : Requested s (requestStop s) := by
  -- The handle is armed or not, and an armed one succeeds or fails.
  by_cases armed : s.stream.phase = .armed
  · rcases attempt : s.connection.sink.sendCommand s.connection.settings.encoding .stop with
      ⟨e | _, sink⟩
    · simp only [requestStop, armed, ne_eq, not_true_eq_false, if_false, attempt]
      exact .refused armed attempt
    · simp only [requestStop, armed, ne_eq, not_true_eq_false, if_false, attempt]
      exact .written armed attempt
  · rw [requestStop_unarmed armed]
    exact .unarmed armed

/-- A stop that cannot be written meets an outage, as it has bytes in every encoding. -/
theorem stop_outage {sink after : Sink} {encoding : Encoding} {e : WireError}
    (attempt : sink.sendCommand encoding .stop = (.error e, after)) : e.beforeSending = false := by
  -- The command cannot be refused for its encoding.
  rcases Sink.sendCommand_error attempt with ⟨refused, _⟩ | ⟨_, _, outage⟩
  · rw [encode_stop] at refused
    cases refused
  · exact WireError.beforeSending_of_isOutage outage

/-- All that can come of a stop from within the session. -/
inductive Stops (s : Session) : Except ClientError Unit × Session → Prop where
  | isOver (isOver : s.stream.isOver = true) : Stops s (.ok (), s)
  | unarmed (unarmed : s.stream.phase ≠ .armed) : Stops s (.ok (), s)
  | written {sink : Sink} (streams : s.stream.state = .streaming) (armed : s.stream.phase = .armed)
    (attempt : s.connection.sink.sendCommand s.connection.settings.encoding .stop
      = (.ok (), sink)) : Stops s (.ok (), s.asked sink)
  | refused {e : WireError} {sink : Sink} (streams : s.stream.state = .streaming)
    (armed : s.stream.phase = .armed)
    (attempt : s.connection.sink.sendCommand s.connection.settings.encoding .stop
      = (.error e, sink)) : Stops s (.error (.wire e), s.fallOut sink)

/-- A stop from within the session is written, or breaks the session, or there is nothing to be
done. -/
theorem stop_stops (s : Session) : Stops s (stop s) := by
  -- The stop is asked for as from outside, and a failure is judged by the guard besides.
  by_cases isOver : s.stream.isOver = true
  · rw [stop_over isOver]
    exact .isOver isOver
  · have streams := Stream.isOver_eq_false.mp (by simpa using isOver)
    have requested := requestStop_requested s
    rcases asked : requestStop s with ⟨outcome, after⟩
    rw [asked] at requested
    simp only [stop, isOver, Bool.false_eq_true, if_false, asked]
    cases requested with
    | unarmed unarmed => exact .unarmed unarmed
    | written armed attempt => exact .written streams armed attempt
    | refused armed attempt =>
      have late := stop_outage attempt
      have broken := Stops.refused streams armed attempt
      simpa [Step.bind_apply, enter, update, onConnection, Connection.guard, late,
        Connection.breakOff, fallOut, unasked] using broken

/-- A stream without a next event is over. -/
theorem nextEvent_last (last : ∀ event, (nextEvent s).1 ≠ .ok (some event)) :
    (nextEvent s).2.stream.isOver = true := by
  -- Over already, it stays so; otherwise the call has come upon one of four things.
  by_cases isOver : s.stream.isOver = true
  · rwa [nextEvent_over isOver]
  · have happens := nextEvent_happens (Stream.isOver_eq_false.mp (by simpa using isOver))
    generalize nextEvent s = outcome at happens last ⊢
    cases happens with
    | block => exact absurd rfl (last _)
    | concluded => exact absurd rfl (last _)
    | unanswered => rfl
    | lost => rfl

/-- A stream that was read to its end is over. -/
theorem discard_isOver (s : Session) : (discard s).2.stream.isOver = true := by
  -- By induction on the events that are thrown away: the last call is the one that finds no event.
  fun_induction discard s with
  | case1 s after found =>
    have isOver := @nextEvent_last s (by simp [found])
    rwa [found] at isOver
  | case2 s e after found =>
    have isOver := @nextEvent_last s (by simp [found])
    rwa [found] at isOver
  | case3 s event after found _ ih => exact ih

/-- A stream that was cancelled is over. -/
theorem cancel_isOver (s : Session) : (cancel s).2.stream.isOver = true := by
  -- To tell the state at the end changes nothing.
  have read (t : Session) :
      ((do discard; return (← get).stream.state : Streaming StreamState) t).2.stream.isOver
        = true := by
    rw [Step.bind_still discard (fun _ _ => rfl) t]
    exact discard_isOver t
  have stops := stop_stops s
  unfold cancel
  rw [Step.bind_apply]
  generalize stop s = outcome at stops ⊢
  cases stops with
  | isOver => exact read s
  | unarmed => exact read s
  | written => exact read _
  | refused => rfl

end Session
end AmigaRemote
