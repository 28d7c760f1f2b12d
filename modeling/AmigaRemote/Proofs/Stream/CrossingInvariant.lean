import AmigaRemote.Proofs.Stream.Course
import AmigaRemote.Proofs.Wire.Sending

/-! However a stop crosses with the end of a stream, the session knows what is still to be read. -/

namespace AmigaRemote

namespace Session

variable {s : Session}

/-- Where a stop was sent, or none may be, to stop changes nothing. -/
theorem requestStop_unarmed (unarmed : s.stream.phase ≠ .armed) : requestStop s = (.ok (), s) := by
  -- The handle looks at its own phase before it writes.
  unfold requestStop
  rw [if_pos unarmed]

/-- Over a reliable transport a stop is written whole, unless one was sent or none may be. -/
theorem requestStop_reliable (reliable : s.connection.sink.Reliable) :
    s.stream.phase ≠ .armed ∧ requestStop s = (.ok (), s) ∨
      s.stream.phase = .armed ∧ ∃ sink, sink.Reliable ∧
        sink.taken = s.connection.sink.taken ++ stopLine ∧
        requestStop s = (.ok (), {
          connection := { s.connection with
            sink, waitLimit? := s.connection.settings.replyLimit? }
          stream := { s.stream with phase := .sent } }) := by
  by_cases armed : s.stream.phase = .armed
  · -- The sink takes the whole line, and then the phase and the limit change.
    obtain ⟨sink, sent, reliable', taken⟩ := Sink.send_reliable reliable stopLine
    refine .inr ⟨armed, sink, reliable', taken, ?_⟩
    simp [requestStop, armed, Sink.sendCommand, encode_stop, Sink.transmit, sent]
  · exact .inl ⟨armed, requestStop_unarmed armed⟩

/-- A stop from within a session over a reliable transport is one from anywhere, as long as the
stream goes on. -/
theorem stop_reliable (reliable : s.connection.sink.Reliable) :
    (stop s).2 = s ∨ (stop s).2 = (requestStop s).2 := by
  unfold stop
  split
  · -- The stream is over, and there is nothing left to stop.
    exact .inl rfl
  · rcases requestStop_reliable reliable with ⟨_, same⟩ | ⟨_, _, _, _, same⟩
    all_goals
      rw [same]
      exact .inr rfl

/-- Without a late stop nothing is read on the way back to commands. -/
theorem finish_uncrossed (uncrossed : s.stream.crossedStop = false) :
    finish s = (.ok (), { s with connection := { s.connection with
      waitLimit? := s.connection.settings.replyLimit? } }) := by
  -- The answer is read only if a stop was crossed.
  simp [finish, onConnection, Connection.leaveStream, Connection.setWaitLimit, Step.bind_apply,
    uncrossed]

/-- The answer to a late stop is read on the way back to commands. -/
theorem finish_answered {response : Response} {reader : Reader}
    (crossed : s.stream.crossedStop = true)
    (read : Reader.readResponse s.connection.reader = (.ok response, reader)) :
    finish s = (.ok (), { s with connection := { s.connection with
      waitLimit? := s.connection.settings.replyLimit?, reader } }) := by
  -- The limit of replies is in force again before the answer is read.
  simp [finish, onConnection, Connection.leaveStream, Connection.setWaitLimit, Step.bind_apply,
    crossed, Connection.receive, read, Connection.guard]

/-- If the answer to a late stop does not come, stream and connection are broken. -/
theorem finish_unanswered {e : WireError} {reader : Reader}
    (crossed : s.stream.crossedStop = true) (late : e.beforeSending = false)
    (read : Reader.readResponse s.connection.reader = (.error e, reader)) :
    finish s = (.error (.wire e), {
      connection := { s.connection with
        waitLimit? := s.connection.settings.replyLimit?, reader, health := .broken }
      stream := { s.stream with state := .broken } }) := by
  -- The failure breaks the connection in the guard and the stream on the way back.
  simp [finish, onConnection, Connection.leaveStream, Connection.setWaitLimit, Step.bind_apply,
    crossed, Connection.receive, read, Connection.guard, Connection.breakOff, late, enter, update]

end Session

namespace Crossing

/-- A thread that waits for events or looks at one. -/
inductive Watching : Point → Prop where
  | idle : Watching .idle
  | took (chunk : Chunk) : Watching (.took (.ok chunk))

/-- What a session has still to look at. A chunk that was taken comes first. -/
def pending : Point → List Item → List Item
  | .took (.ok chunk), items => .chunk chunk :: items
  | _, items => items

/-- What comes last is looked at last. -/
theorem pending_append (point : Point) (items more : List Item) :
    pending point (items ++ more) = pending point items ++ more := by
  -- What the point adds stands in front of all items.
  unfold pending
  split <;> rfl

/-- Where a session is in the course of its stream, and what is ahead of it there. -/
inductive Situation (exits : Bytes → Prop) :
    Point → Stream → Duty → Bool → List Item → Prop where
  /-- No end was looked at, and no notice of one. -/
  | running {point : Point} {stream : Stream} {duty : Duty} {onItsWay : Bool} {items : List Item}
    (watching : Watching point) (streams : stream.state = .streaming)
    (stoppable : stream.phase ≠ .disarmed) (uncrossed : stream.crossedStop = false)
    (ahead : Ahead exits duty stream.stopRequested onItsWay (pending point items)) :
    Situation exits point stream duty onItsWay items
  /-- A notice of the end was looked at. -/
  | noticed {point : Point} {stream : Stream} {onItsWay : Bool} {items rest : List Item}
    (watching : Watching point) (streams : stream.state = .streaming)
    (disarmed : stream.phase = .disarmed) (ending : pending point items = .chunk .ended :: rest)
    (late : Late stream.crossedStop onItsWay rest) :
    Situation exits point stream .commands onItsWay items
  /-- The end was looked at. -/
  | leaving {event : StreamEvent} {stream : Stream} {onItsWay : Bool} {items : List Item}
    (ended : stream.state = .stopped ∨ stream.state = .failed)
    (disarmed : stream.phase = .disarmed) (late : Late stream.crossedStop onItsWay items) :
    Situation exits (.leaving event) stream .commands onItsWay items
  /-- Nothing is left of the stream. -/
  | home {stream : Stream} (ended : stream.state = .stopped ∨ stream.state = .failed)
    (disarmed : stream.phase = .disarmed) : Situation exits .idle stream .commands false []

/-- As long as a stop may be sent or answered by the end, no end was looked at. -/
theorem Situation.stoppable {exits : Bytes → Prop} {point : Point} {stream : Stream} {duty : Duty}
    {onItsWay : Bool} {items : List Item}
    (situation : Situation exits point stream duty onItsWay items)
    (stoppable : stream.phase ≠ .disarmed) :
    Watching point ∧ stream.state = .streaming ∧ stream.crossedStop = false ∧
      Ahead exits duty stream.stopRequested onItsWay (pending point items) := by
  -- In all other situations no stop may be sent any more.
  cases situation with
  | running watching streams _ uncrossed ahead => exact ⟨watching, streams, uncrossed, ahead⟩
  | noticed _ _ disarmed => exact absurd disarmed stoppable
  | leaving _ disarmed => exact absurd disarmed stoppable
  | home _ disarmed => exact absurd disarmed stoppable

section Situations

variable {exits : Bytes → Prop} {stream : Stream} {duty : Duty} {onItsWay : Bool}
  {items : List Item}

/-- What a waiting thread meets first is a chunk, if it is anything. -/
theorem Situation.head (situation : Situation exits .idle stream duty onItsWay items)
    (streams : stream.state = .streaming) :
    items = [] ∨ ∃ chunk rest, items = .chunk chunk :: rest := by
  -- A session that is home streams no more, so that two situations are left.
  cases situation with
  | running _ _ _ _ ahead => exact ahead.head
  | noticed _ _ _ ending => exact .inr ⟨_, _, ending⟩
  | home ended => simp [streams] at ended

/-- A chunk that is taken is still to be looked at. -/
theorem Situation.take {chunk : Chunk}
    (situation : Situation exits .idle stream duty onItsWay (.chunk chunk :: items))
    (streams : stream.state = .streaming) :
    Situation exits (.took (.ok chunk)) stream duty onItsWay items := by
  -- A running stream has any chunk ahead of it, a noticed one only its end.
  cases situation with
  | running _ _ stoppable uncrossed ahead =>
    exact .running (.took chunk) streams stoppable uncrossed ahead
  | noticed _ _ disarmed ending late =>
    exact .noticed (.took chunk) streams disarmed ending late

/-- The end that is looked at answers the stop that was sent, or comes after a notice of it. -/
theorem Situation.ended
    (situation : Situation exits (.took (.ok .ended)) stream duty onItsWay items) :
    Situation exits (.leaving .ended) { stream.disarm with state := .stopped } duty onItsWay
      items := by
  -- Without a notice the end answers a stop, and after a notice a stop came too late.
  cases situation with
  | running _ _ _ uncrossed ahead =>
    obtain ⟨rfl, _, rfl, rfl⟩ := ahead.of_ended
    refine .leaving (.inl rfl) rfl ?_
    change Late stream.crossedStop false []
    rw [uncrossed]
    exact .unsent
  | noticed _ _ _ ending late =>
    cases ending
    exact .leaving (.inl rfl) rfl late

/-- A stream that ends by itself has noted whether a stop was sent, which then came too late. -/
theorem late_of_uncrossed (uncrossed : stream.crossedStop = false)
    (late : Late stream.stopRequested onItsWay items) :
    Late stream.endByItself.crossedStop onItsWay items := by
  -- What is noted is the request, unless one was noted before.
  change Late (stream.crossedStop || stream.stopRequested) onItsWay items
  rw [uncrossed, Bool.false_or]
  exact late

/-- An error that is looked at leaves a stop that was sent to be answered on its own. -/
theorem Situation.aborted {e : DaemonError}
    (situation : Situation exits (.took (.ok (.aborted e))) stream duty onItsWay items) :
    Situation exits (.leaving (.aborted e))
      { stream.endByItself with state := .failed, failure := some e } duty onItsWay items := by
  -- No error follows a notice of the exit, so no end was known before.
  cases situation with
  | running _ _ _ uncrossed ahead =>
    obtain ⟨rfl, late⟩ := ahead.of_aborted
    exact .leaving (.inr rfl) rfl (late_of_uncrossed uncrossed late)
  | noticed _ _ _ ending => cases ending

/-- A notice of the exit that is looked at leaves a stop that was sent to be answered on its own. -/
theorem Situation.exited {bytes : Bytes} (tells : exits bytes)
    (situation : Situation exits (.took (.ok (.data bytes))) stream duty onItsWay items) :
    Situation exits .idle stream.endByItself duty onItsWay items := by
  -- A second notice does not follow the first.
  cases situation with
  | running _ streams stoppable uncrossed ahead =>
    rcases ahead.of_data with ⟨_, rfl, rest, rfl, late⟩ | ⟨ordinary, _⟩
    · exact .noticed .idle streams rfl rfl (late_of_uncrossed uncrossed late)
    · exact absurd tells ordinary
  | noticed _ _ _ ending => cases ending

/-- Other data that is looked at leaves everything as it was. -/
theorem Situation.data {bytes : Bytes} (ordinary : ¬exits bytes)
    (situation : Situation exits (.took (.ok (.data bytes))) stream duty onItsWay items) :
    Situation exits .idle stream duty onItsWay items := by
  -- No data follows a notice of the exit.
  cases situation with
  | running _ streams stoppable uncrossed ahead =>
    rcases ahead.of_data with ⟨tells, _⟩ | ⟨_, later⟩
    · exact absurd tells ordinary
    · exact .running .idle streams stoppable uncrossed later
  | noticed _ _ _ ending => cases ending

/-- A session that knows what is ahead has met no failure. -/
theorem Situation.no_error {e : WireError}
    (situation : Situation exits (.took (.error e)) stream duty onItsWay items) : False := by
  -- Neither a running nor a noticed session is at a point that holds an error.
  cases situation with
  | running watching => cases watching
  | noticed watching => cases watching

/-- On the way back to commands only a late stop is left to be seen to. -/
theorem Situation.of_leaving {event : StreamEvent}
    (situation : Situation exits (.leaving event) stream duty onItsWay items) :
    (stream.state = .stopped ∨ stream.state = .failed) ∧ stream.phase = .disarmed ∧
      duty = .commands ∧ Late stream.crossedStop onItsWay items := by
  -- Only one situation has the thread at this point.
  cases situation with
  | running watching => cases watching
  | noticed watching => cases watching
  | leaving ended disarmed late => exact ⟨ended, disarmed, rfl, late⟩

end Situations

/-- A crossing in which the session knows what is ahead of it. -/
structure Aligned (x : Crossing) (onItsWay : Bool) (items : List Item) : Prop where
  carried : Carries x.encoding items (x.session.unread ++ x.outbox)
  heard : x.written = x.heard ++ if onItsWay then stopLine else []
  situation : Situation (TellsExit x.session.stream.kind x.encoding) x.point x.session.stream
    x.daemon onItsWay items

/-- A crossing in which an outage broke the stream, or is about to. -/
def Lost (x : Crossing) : Prop :=
  (∃ e, x.point = .took (.error e) ∧ e.isOutage = true) ∨
    x.point = .idle ∧ x.session.stream.state = .broken ∧ x.session.stream.phase = .disarmed

/-- At most one stop was written since the beginning, and none while one may still be sent. -/
def Once (history : Bytes) (x : Crossing) : Prop :=
  x.written = history ∨ x.session.stream.phase ≠ .armed ∧ x.written = history ++ stopLine

/-- What holds of a crossing whatever happens. -/
structure Sound (history : Bytes) (x : Crossing) : Prop where
  agree : x.session.connection.reader.encoding = x.encoding
  reliable : x.session.connection.sink.Reliable
  once : Once history x
  course : (∃ onItsWay items, Aligned x onItsWay items) ∨ Lost x

variable {x : Crossing} {history : Bytes}

/-- A thread that waits takes the next chunk. -/
theorem advanced_idle (idle : x.point = .idle) (streams : x.session.stream.state = .streaming) :
    x.advanced = { x with
      point := .took (Reader.readChunk x.session.connection.reader).1
      session := { x.session with connection := { x.session.connection with
        reader := (Reader.readChunk x.session.connection.reader).2 } } } := by
  -- The thread is idle and the stream goes on, so that of `advanced` one branch is left.
  simp [advanced, idle, Session.advance, Session.awaitChunk, Stream.isOver, streams]

/-- A thread that waits takes nothing of a stream that is over. -/
theorem advanced_over (idle : x.point = .idle) (ended : x.session.stream.state ≠ .streaming) :
    x.advanced = x := by
  -- As above, with the other branch.
  simp [advanced, idle, Session.advance, Stream.isOver, ended]
  rw [← idle]

/-- Data changes nothing but that a notice of the exit ends the stream. -/
theorem advanced_data {bytes : Bytes} (took : x.point = .took (.ok (.data bytes))) :
    x.advanced = { x with
      point := .idle
      session := { x.session with
        stream := if TellsExit x.session.stream.kind x.encoding bytes
          then x.session.stream.endByItself else x.session.stream } } := by
  -- The state is looked at where a chunk was taken, and each kind of chunk has a branch of its own.
  unfold advanced
  rw [took]
  rfl

/-- The end is looked at before the way back to commands. -/
theorem advanced_ended (took : x.point = .took (.ok .ended)) :
    x.advanced = { x with
      point := .leaving .ended
      session := { x.session with
        stream := { x.session.stream.disarm with state := .stopped } } } := by
  -- The stream is stopped and disarmed, and it is left later, in a step of its own.
  unfold advanced
  rw [took]
  rfl

/-- An error is looked at before the way back to commands. -/
theorem advanced_aborted {e : DaemonError} (took : x.point = .took (.ok (.aborted e))) :
    x.advanced = { x with
      point := .leaving (.aborted e)
      session := { x.session with
        stream := { x.session.stream.endByItself with
          state := .failed, failure := some e } } } := by
  -- An error ends the stream by itself, so that a stop sent before is noted as late.
  unfold advanced
  rw [took]
  rfl

/-- A chunk that could not be taken breaks the stream and its connection. -/
theorem advanced_failed {e : WireError} (took : x.point = .took (.error e))
    (late : e.beforeSending = false) :
    x.advanced = { x with
      point := .idle
      session := ⟨{ x.session.connection with health := .broken },
        { x.session.stream.disarm with state := .broken }⟩ } := by
  -- The failure came after sending, so that the guard breaks the connection.
  unfold advanced
  rw [took]
  simp [Session.advance, Session.process, Step.bind_apply, Session.update, Session.onConnection,
    Connection.guard, Connection.breakOff, late]

/-- The way back to commands is one step of the thread. -/
theorem advanced_leaving {event : StreamEvent} (leaving : x.point = .leaving event) :
    x.advanced = { x with point := .idle, session := (Session.finish x.session).2 } := by
  -- The event was kept at the point, and what is left is the way back.
  unfold advanced
  rw [leaving]
  rfl

/-- Where nothing is written, and no stop may be sent any more, at most one stop stays written. -/
theorem Once.disarmed {y : Crossing} (once : Once history x) (same : y.written = x.written)
    (disarmed : y.session.stream.phase = .disarmed) : Once history y := by
  -- A handle that is disarmed is not armed, as the second case of the invariant has it.
  have notArmed : y.session.stream.phase ≠ .armed := by
    rw [disarmed]
    decide
  rcases once with written | ⟨_, written⟩
  · exact .inl (same.trans written)
  · exact .inr ⟨notArmed, same.trans written⟩

/-- A stop leaves the session knowing what is ahead of it. -/
theorem Sound.requestStop (sound : Sound history x) :
    Sound history { x with session := (Session.requestStop x.session).2 } := by
  rcases Session.requestStop_reliable sound.reliable with
    ⟨_, same⟩ | ⟨armed, sink, reliable, taken, same⟩
  · rw [same]
    exact sound
  rw [same]
  have written : x.written = history := by
    rcases sound.once with written | ⟨notArmed, _⟩
    · exact written
    · exact absurd armed notArmed
  refine ⟨sound.agree, reliable, .inr ⟨nofun, ?_⟩, ?_⟩
  · rw [← written]
    exact taken
  -- What is ahead is the same as before, but one stop more is on its way.
  rcases sound.course with ⟨onItsWay, items, carried, heard, situation⟩ | lost
  · -- A stop can be sent only where none is on its way and no end was looked at.
    have stoppable : x.session.stream.phase ≠ .disarmed := by
      rw [armed]
      nofun
    obtain ⟨watching, streams, uncrossed, ahead⟩ := situation.stoppable stoppable
    rw [Stream.stopRequested, armed] at ahead
    have none := ahead.unsent
    subst none
    refine .inl ⟨true, items, carried, ?_, .running watching streams nofun uncrossed ahead.send⟩
    change sink.taken = _
    rw [taken]
    exact congrArg (· ++ stopLine) (heard.trans (List.append_nil _))
  · rcases lost with taken' | ⟨_, _, disarmed⟩
    · exact .inr (.inl taken')
    · rw [armed] at disarmed
      cases disarmed

/-- A stop from within the session leaves it knowing what is ahead of it. -/
theorem Sound.stop (sound : Sound history x) :
    Sound history { x with session := x.session.stop.2 } := by
  -- The session sends the stop as the handle would, or not at all.
  rcases Session.stop_reliable sound.reliable with same | same
  · rw [same]
    exact sound
  · rw [same]
    exact sound.requestStop

/-- A chunk that is taken is the one ahead, and only an outage keeps one from being taken. -/
theorem Sound.take (sound : Sound history x) (idle : x.point = .idle)
    (streams : x.session.stream.state = .streaming) : Sound history x.advanced := by
  rw [advanced_idle idle streams]
  rcases sound.course with ⟨onItsWay, items, carried, heard, situation⟩ | lost
  · rw [idle] at situation
    rcases situation.head streams with rfl | ⟨chunk, rest, rfl⟩
    · -- Nothing is ahead, so nothing can be taken.
      have nothing := (List.append_eq_nil_iff.mp carried.of_nil).1
      obtain ⟨e, after, read, outage⟩ := Reader.readChunk_nothing nothing
      have kept := Reader.readChunk_keeps sound.agree
      rw [read] at kept ⊢
      exact ⟨kept, sound.reliable, sound.once, .inr (.inl ⟨e, rfl, outage⟩)⟩
    · -- A chunk is ahead, and its frame stands at the front.
      obtain ⟨first, behind, isChunk, carried, front⟩ := carried.of_chunk
      rw [← sound.agree] at isChunk
      have kept := Reader.readChunk_keeps sound.agree
      rcases Reader.readChunk_reads isChunk front with
        ⟨after, read, same, _⟩ | ⟨e, after, read, outage⟩
      all_goals rw [read] at kept ⊢
      · refine ⟨kept, sound.reliable, sound.once,
          .inl ⟨onItsWay, rest, ?_, heard, situation.take streams⟩⟩
        rw [← same] at carried
        exact carried
      · exact ⟨kept, sound.reliable, sound.once, .inr (.inl ⟨e, rfl, outage⟩)⟩
  · rcases lost with ⟨_, taken, _⟩ | ⟨_, broken, _⟩
    · rw [idle] at taken
      cases taken
    · rw [streams] at broken
      cases broken

section Looking

variable {onItsWay : Bool} {items : List Item}

/-- Data is understood, whatever stops were sent meanwhile. -/
theorem Sound.data {bytes : Bytes} (sound : Sound history x) (aligned : Aligned x onItsWay items)
    (took : x.point = .took (.ok (.data bytes))) : Sound history x.advanced := by
  obtain ⟨carried, heard, situation⟩ := aligned
  rw [took] at situation
  rw [advanced_data took]
  -- A notice of the exit takes the right to a stop away.
  by_cases tells : TellsExit x.session.stream.kind x.encoding bytes
  · rw [if_pos tells]
    exact ⟨sound.agree, sound.reliable, sound.once.disarmed rfl rfl,
      .inl ⟨onItsWay, items, carried, heard, situation.exited tells⟩⟩
  · rw [if_neg tells]
    exact ⟨sound.agree, sound.reliable, sound.once,
      .inl ⟨onItsWay, items, carried, heard, situation.data tells⟩⟩

/-- The end is understood, whatever stops were sent meanwhile. -/
theorem Sound.ended (sound : Sound history x) (aligned : Aligned x onItsWay items)
    (took : x.point = .took (.ok .ended)) : Sound history x.advanced := by
  -- What the aligned session knew is what the end says about it.
  obtain ⟨carried, heard, situation⟩ := aligned
  rw [took] at situation
  rw [advanced_ended took]
  exact ⟨sound.agree, sound.reliable, sound.once.disarmed rfl rfl,
    .inl ⟨onItsWay, items, carried, heard, situation.ended⟩⟩

/-- An error is understood, whatever stops were sent meanwhile. -/
theorem Sound.aborted {e : DaemonError} (sound : Sound history x)
    (aligned : Aligned x onItsWay items) (took : x.point = .took (.ok (.aborted e))) :
    Sound history x.advanced := by
  -- As for the end, with an error in its place.
  obtain ⟨carried, heard, situation⟩ := aligned
  rw [took] at situation
  rw [advanced_aborted took]
  exact ⟨sound.agree, sound.reliable, sound.once.disarmed rfl rfl,
    .inl ⟨onItsWay, items, carried, heard, situation.aborted⟩⟩

end Looking

/-- Whatever was taken is understood, whatever stops were sent meanwhile. -/
theorem Sound.process {taken : Except WireError Chunk} (sound : Sound history x)
    (took : x.point = .took taken) : Sound history x.advanced := by
  rcases sound.course with ⟨onItsWay, items, aligned⟩ | ⟨e, failed, outage⟩ | ⟨idle, _⟩
  · rcases taken with e | bytes | _ | e
    · have situation := aligned.situation
      rw [took] at situation
      exact situation.no_error.elim
    · exact sound.data aligned took
    · exact sound.ended aligned took
    · exact sound.aborted aligned took
  · -- After an outage nothing is to be understood any more.
    rw [advanced_failed failed (WireError.beforeSending_of_isOutage outage)]
    exact ⟨sound.agree, sound.reliable, sound.once.disarmed rfl rfl, .inr (.inr ⟨rfl, rfl, rfl⟩)⟩
  · rw [took] at idle
    cases idle

/-- A way back to commands that was gone to its end, with nothing left to come. -/
structure Home (x : Crossing) (reader : Reader) : Prop where
  finished : Session.finish x.session = (.ok (), { x.session with
    connection := { x.session.connection with
      waitLimit? := x.session.connection.settings.replyLimit?, reader } })
  encoding : reader.encoding = x.encoding
  nothing : reader.unread ++ x.outbox = []
  heard : x.written = x.heard
  waits : x.daemon = .commands
  ended : x.session.stream.state = .stopped ∨ x.session.stream.state = .failed
  disarmed : x.session.stream.phase = .disarmed

/-- A way back to commands that an outage cut short. -/
structure CutOff (x : Crossing) (reader : Reader) (e : WireError) : Prop where
  finished : Session.finish x.session = (.error (.wire e), {
    connection := { x.session.connection with
      waitLimit? := x.session.connection.settings.replyLimit?, reader, health := .broken }
    stream := { x.session.stream with state := .broken } })
  outage : e.isOutage = true
  encoding : reader.encoding = x.encoding
  disarmed : x.session.stream.phase = .disarmed

/-- On the way back to commands exactly the answer to a late stop is read, and only an outage keeps
it from being read. -/
theorem Sound.finish_cases {event : StreamEvent} (sound : Sound history x)
    (leaving : x.point = .leaving event) :
    (∃ reader, Home x reader) ∨ ∃ reader e, CutOff x reader e := by
  rcases sound.course with ⟨onItsWay, items, carried, heard, situation⟩ | ⟨_, taken, _⟩ | ⟨idle, _⟩
  · rw [leaving] at situation
    obtain ⟨ended, disarmed, waits, late⟩ := situation.of_leaving
    -- Whether an answer is to be read is what the session has noted.
    by_cases crossed : x.session.stream.crossedStop = true
    · rw [crossed] at late
      rcases late.of_sent with ⟨rfl, rfl⟩ | ⟨rfl, rfl⟩
      · -- The daemon has still to get the stop, so its answer is not there.
        have nothing := (List.append_eq_nil_iff.mp carried.of_nil).1
        obtain ⟨e, reader, read, outage⟩ := Reader.readResponse_nothing nothing
        have kept := Reader.readResponse_keeps sound.agree
        rw [read] at kept
        exact .inr ⟨reader, e, Session.finish_unanswered crossed
          (WireError.beforeSending_of_isOutage outage) read, outage, kept, disarmed⟩
      · -- The answer is there, and nothing is behind it.
        obtain ⟨response, first, behind, isResponse, rest, front⟩ := carried.of_reply
        have none := rest.of_nil
        subst none
        rw [← sound.agree] at isResponse
        have kept := Reader.readResponse_keeps sound.agree
        rcases Reader.readResponse_reads isResponse front with
          ⟨reader, read, same, _⟩ | ⟨e, reader, read, outage⟩
        all_goals rw [read] at kept
        · exact .inl ⟨reader, Session.finish_answered crossed read, kept, same,
            by simpa using heard, waits, ended, disarmed⟩
        · exact .inr ⟨reader, e, Session.finish_unanswered crossed
            (WireError.beforeSending_of_isOutage outage) read, outage, kept, disarmed⟩
    · have uncrossed : x.session.stream.crossedStop = false := by simpa using crossed
      rw [uncrossed] at late
      obtain ⟨rfl, rfl⟩ := late.of_unsent
      exact .inl ⟨x.session.connection.reader, Session.finish_uncrossed uncrossed, sound.agree,
        carried.of_nil, by simpa using heard, waits, ended, disarmed⟩
  · rw [leaving] at taken
    cases taken
  · rw [leaving] at idle
    cases idle

/-- The way back to commands leaves nothing behind, unless an outage breaks the stream. -/
theorem Sound.leave {event : StreamEvent} (sound : Sound history x)
    (leaving : x.point = .leaving event) : Sound history x.advanced := by
  rw [advanced_leaving leaving]
  -- Either nothing is left of the stream, or it is broken.
  rcases sound.finish_cases leaving with ⟨reader, home⟩ | ⟨reader, e, cutOff⟩
  · rw [home.finished]
    refine ⟨home.encoding, sound.reliable, sound.once, .inl ⟨false, [], ?_, ?_, ?_⟩⟩
    · have nothing := home.nothing
      change Carries x.encoding [] (reader.unread ++ x.outbox)
      rw [nothing]
      exact .nothing
    · exact home.heard.trans (List.append_nil _).symm
    · have waits := home.waits
      change Situation _ .idle x.session.stream x.daemon false []
      rw [waits]
      exact .home home.ended home.disarmed
  · rw [cutOff.finished]
    exact ⟨cutOff.encoding, sound.reliable, sound.once, .inr (.inr ⟨rfl, rfl, cutOff.disarmed⟩)⟩

/-- A step of the session leaves it knowing what is ahead of it. -/
theorem Sound.advance (sound : Sound history x) : Sound history x.advanced := by
  -- The session makes another kind of step in each place.
  match point : x.point with
  | .idle =>
    by_cases streams : x.session.stream.state = .streaming
    · exact sound.take point streams
    · rw [advanced_over point streams]
      exact sound
  | .took taken => exact sound.process point
  | .leaving event => exact sound.leave point

end Crossing
end AmigaRemote
