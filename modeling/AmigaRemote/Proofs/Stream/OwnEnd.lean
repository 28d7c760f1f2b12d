import AmigaRemote.Proofs.Stream.CrossingRun

/-! A trace of all programs that the daemon ends by itself, as it does when another client stops it.
The session takes that end for the answer to a stop. So if a stop has crossed with it, the answer to
the stop is left to be read. -/

namespace AmigaRemote

/-- What is ahead of a session once the daemon has ended its stream by itself, by whether a stop was
sent and whether that is still on its way. -/
inductive Closing (sent onItsWay : Bool) : List Item → Prop where
  /-- The end, and what becomes of a stop. -/
  | ended {rest : List Item} (late : Late sent onItsWay rest) :
    Closing sent onItsWay (.chunk .ended :: rest)
  | data {bytes : Bytes} {rest : List Item} (later : Closing sent onItsWay rest) :
    Closing sent onItsWay (.chunk (.data bytes) :: rest)

namespace Closing

variable {sent onItsWay : Bool} {items : List Item}

/-- What comes first is a chunk. -/
theorem head (closing : Closing sent onItsWay items) :
    ∃ chunk rest, items = .chunk chunk :: rest := by
  -- It is data or the end itself.
  cases closing with
  | ended => exact ⟨_, _, rfl⟩
  | data => exact ⟨_, _, rfl⟩

/-- After the end comes what becomes of the stop. -/
theorem of_ended (closing : Closing sent onItsWay (.chunk .ended :: items)) :
    Late sent onItsWay items := by
  -- An end is the only closing that begins with one.
  cases closing with
  | ended late => exact late

/-- After data the end is still ahead. -/
theorem of_data {bytes : Bytes} (closing : Closing sent onItsWay (.chunk (.data bytes) :: items)) :
    Closing sent onItsWay items := by
  -- Only the other constructor begins with data.
  cases closing with
  | data later => exact later

/-- A stop that is sent now comes too late. -/
theorem send (closing : Closing false onItsWay items) : Closing true true items := by
  -- By induction on what is left of the stream; its end takes the stop for late.
  induction closing with
  | ended late => exact .ended late.send
  | data _ ih => exact .data ih

/-- A stop that was not sent is not on its way. -/
theorem unsent (closing : Closing false onItsWay items) : onItsWay = false := by
  -- By induction as well: what the end knows of a stop is known all along.
  induction closing with
  | ended late => exact late.of_unsent.1
  | data _ ih => exact ih

/-- A stop that the daemon gets now is answered behind everything else. -/
theorem answer (closing : Closing sent true items) : Closing sent false (items ++ [.reply]) := by
  -- The answer goes behind the end, and so behind all data in front of it.
  induction closing with
  | ended late => exact .ended late.answer
  | data _ ih => exact .data ih

end Closing

/-- An end that the daemon sends by itself comes last, and a stop that is on its way comes too late
for it. -/
theorem Ahead.closing {exits : Bytes → Prop} {sent onItsWay : Bool} {items : List Item}
    (ahead : Ahead exits .streaming sent onItsWay items) :
    Closing sent sent (items ++ [.chunk .ended]) := by
  -- While the daemon streams only data is ahead.
  generalize same : Duty.streaming = duty at ahead
  induction ahead with
  | streaming => exact .ended (.at_end _)
  | stopped => cases same
  | aborted => cases same
  | exited => cases same
  | data _ _ ih => exact .data (ih same)

namespace Crossing

/-- All that can come about where the daemon may also end a trace of all programs by itself, and
whether it did. -/
inductive Comes (first : Crossing) : Bool → Crossing → Prop where
  | here : Comes first false first
  | next {byItself : Bool} {x y : Crossing} (before : Comes first byItself x) (step : Next x y) :
    Comes first byItself y
  | endsItself {x : Crossing} {frame : Bytes} (before : Comes first false x)
    (streams : x.daemon = .streaming) (traces : x.session.stream.kind = .traceStart)
    (isEnd : ChunkFrame x.encoding .ended frame) :
    Comes first true { x with daemon := .commands, outbox := x.outbox ++ frame }

variable {first x y : Crossing} {history : Bytes}

/-- Where the daemon has not ended the stream by itself nothing more has come about than else. -/
theorem Comes.reach (comes : Comes first false x) : Reach first x := by
  -- The flag is fixed first, since the induction would lose it.
  generalize same : false = byItself at comes
  induction comes with
  | here => exact .here first
  | next _ step ih => exact (ih same).next step
  | endsItself => cases same

/-- As long as it streams the daemon has got nothing but what was written before. -/
theorem heard_of_streaming (reached : Reach (start s) x) (streams : x.daemon = .streaming) :
    x.heard = s.connection.sink.taken := by
  induction reached with
  | here => rfl
  | next _ step ih =>
    -- What is got is a stop, which ends the stream, or comes after the end.
    cases step with
    | answer waits =>
      rw [waits] at streams
      cases streams
    | refuse | exit | stopped => cases streams
    | arrive | data | advance | stop | stopElsewhere => exact ih streams

/-- Where a session is in the course of a stream that the daemon has ended by itself. -/
inductive Parting (sent onItsWay : Bool) : Point → Stream → List Item → Prop where
  /-- The end was not looked at. -/
  | running {point : Point} {stream : Stream} {items : List Item} (watching : Watching point)
    (streams : stream.state = .streaming) (phase : stream.phase = if sent then .sent else .armed)
    (closing : Closing sent onItsWay (pending point items)) :
    Parting sent onItsWay point stream items
  /-- The end was looked at, and nothing more will be read. -/
  | past {point : Point} {stream : Stream} {items : List Item}
    (away : point = .idle ∨ ∃ event, point = .leaving event) (stopped : stream.state = .stopped)
    (disarmed : stream.phase = .disarmed) (late : Late sent onItsWay items) :
    Parting sent onItsWay point stream items

/-- A crossing with what is left of a stream that the daemon has ended by itself. -/
structure Passed (history : Bytes) (x : Crossing) (sent onItsWay : Bool) (items : List Item) :
    Prop where
  carried : Carries x.encoding items (x.session.unread ++ x.outbox)
  written : x.written = history ++ if sent then stopLine else []
  heard : x.written = x.heard ++ if onItsWay then stopLine else []
  uncrossed : x.session.stream.crossedStop = false
  parting : Parting sent onItsWay x.point x.session.stream items

/-- What holds of a crossing once the daemon has ended the stream by itself. -/
structure Adrift (history : Bytes) (x : Crossing) : Prop where
  agree : x.session.connection.reader.encoding = x.encoding
  reliable : x.session.connection.sink.Reliable
  waits : x.daemon = .commands
  traces : x.session.stream.kind = .traceStart
  course : (∃ sent onItsWay items, Passed history x sent onItsWay items) ∨ Lost x

/-- As long as the daemon streams the session has looked at no end, nor at a notice of one. -/
theorem Situation.of_streaming {exits : Bytes → Prop} {point : Point} {stream : Stream}
    {onItsWay : Bool} {items : List Item}
    (situation : Situation exits point stream .streaming onItsWay items) :
    Watching point ∧ stream.state = .streaming ∧
      stream.phase = (if stream.stopRequested then .sent else .armed) ∧
      stream.crossedStop = false ∧
      Ahead exits .streaming stream.stopRequested onItsWay (pending point items) := by
  -- While the daemon streams it has sent no end, so that the session is running.
  cases situation with
  | running watching streams stoppable uncrossed ahead =>
    refine ⟨watching, streams, ?_, uncrossed, ahead⟩
    -- The phase says whether a stop was requested, and no notice has disarmed it.
    unfold Stream.stopRequested
    cases phase : stream.phase with
    | armed => rfl
    | sent => rfl
    | disarmed => exact absurd phase stoppable

/-- A daemon that ends the stream by itself sends its end behind everything else. -/
theorem Sound.endsItself {frame : Bytes} (sound : Sound history x)
    (streams : x.daemon = .streaming) (unheard : x.heard = history)
    (traces : x.session.stream.kind = .traceStart) (isEnd : ChunkFrame x.encoding .ended frame) :
    Adrift history { x with daemon := .commands, outbox := x.outbox ++ frame } := by
  refine ⟨sound.agree, sound.reliable, rfl, traces, ?_⟩
  rcases sound.course with ⟨onItsWay, items, carried, heard, situation⟩ | lost
  · rw [streams] at situation
    obtain ⟨watching, goesOn, phase, uncrossed, ahead⟩ := situation.of_streaming
    -- A stop that was sent is still on its way.
    obtain rfl := ahead.streaming_sent
    refine .inl ⟨_, _, _, carries_outbox carried (.single_chunk isEnd), unheard ▸ heard, heard,
      uncrossed, .running watching goesOn phase ?_⟩
    rw [pending_append]
    exact ahead.closing
  · exact .inr lost

/-- A trace of all programs is not over because one of them ends. -/
theorem not_tellsExit {kind : StreamKind} (traces : kind = .traceStart) (encoding : Encoding)
    (bytes : Bytes) : ¬TellsExit kind encoding bytes := by
  -- Only a TRACE RUN ends on its exit.
  rintro ⟨ends, _⟩
  rw [traces] at ends
  cases ends

/-- A stop leaves what is left of the stream known. -/
theorem Adrift.requestStop (adrift : Adrift history x) :
    Adrift history { x with session := (Session.requestStop x.session).2 } := by
  rcases Session.requestStop_reliable adrift.reliable with
    ⟨_, same⟩ | ⟨armed, sink, reliable, taken, same⟩
  · rw [same]
    exact adrift
  rw [same]
  refine ⟨adrift.agree, reliable, adrift.waits, adrift.traces, ?_⟩
  rcases adrift.course with
    ⟨sent, onItsWay, items, carried, written, heard, uncrossed, parting⟩ | lost
  · cases parting with
    | past _ _ disarmed =>
      rw [armed] at disarmed
      cases disarmed
    | running watching streams phase closing =>
      -- A stop can be sent only where none was sent before.
      cases sent with
      | true =>
        rw [armed] at phase
        cases phase
      | false =>
        obtain rfl := closing.unsent
        refine .inl ⟨true, true, items, carried, ?_, ?_, uncrossed,
          .running watching streams rfl closing.send⟩
        · exact taken.trans (congrArg (· ++ stopLine) (written.trans (List.append_nil _)))
        · exact taken.trans (congrArg (· ++ stopLine) (heard.trans (List.append_nil _)))
  · rcases lost with took | ⟨_, _, disarmed⟩
    · exact .inr (.inl took)
    · rw [armed] at disarmed
      cases disarmed

/-- A stop from within leaves what is left of the stream known. -/
theorem Adrift.stop (adrift : Adrift history x) :
    Adrift history { x with session := x.session.stop.2 } := by
  -- The session stops as the handle does, or not at all.
  rcases Session.stop_reliable adrift.reliable with same | same
  · rw [same]
    exact adrift
  · rw [same]
    exact adrift.requestStop

/-- A chunk that is taken is the one ahead, and only an outage keeps it from being taken. -/
theorem Adrift.take (adrift : Adrift history x) (idle : x.point = .idle)
    (streams : x.session.stream.state = .streaming) : Adrift history x.advanced := by
  rw [advanced_idle idle streams]
  -- The reading keeps the encoding, whatever it finds.
  have kept := Reader.readChunk_keeps adrift.agree
  rcases adrift.course with
    -- What is known of the rest gives the chunk that has to come; where something was lost nothing
    -- is taken.
    ⟨sent, onItsWay, items, carried, written, heard, uncrossed, parting⟩ | lost
  · rw [idle] at parting
    cases parting with
    | past _ stopped =>
      rw [streams] at stopped
      cases stopped
    | running _ _ phase closing =>
      obtain ⟨chunk, rest, rfl⟩ : ∃ chunk rest, items = .chunk chunk :: rest := closing.head
      obtain ⟨front, behind, isChunk, carried, unread⟩ := carried.of_chunk
      rw [← adrift.agree] at isChunk
      -- The chunk is read, or an outage comes between.
      rcases Reader.readChunk_reads isChunk unread with
        ⟨after, read, same, _⟩ | ⟨e, after, read, outage⟩
      all_goals rw [read] at kept ⊢
      · rw [← same] at carried
        exact ⟨kept, adrift.reliable, adrift.waits, adrift.traces, .inl ⟨sent, onItsWay, rest,
          carried, written, heard, uncrossed, .running (.took chunk) streams phase closing⟩⟩
      · exact ⟨kept, adrift.reliable, adrift.waits, adrift.traces, .inr (.inl ⟨e, rfl, outage⟩)⟩
  · rcases lost with ⟨_, taken, _⟩ | ⟨_, broken, _⟩
    · rw [idle] at taken
      cases taken
    · rw [streams] at broken
      cases broken

/-- The end that is looked at is taken for the answer to a stop, whatever it was. -/
theorem Adrift.process {taken : Except WireError Chunk} (adrift : Adrift history x)
    (took : x.point = .took taken) : Adrift history x.advanced := by
  obtain ⟨agree, reliable, waits, traces, course⟩ := adrift
  rcases course with
    ⟨sent, onItsWay, items, carried, written, heard, uncrossed, parting⟩ |
      ⟨e, failed, outage⟩ | ⟨idle, _⟩
  · rw [took] at parting
    cases parting with
    | past away => rcases away with away | ⟨_, away⟩ <;> cases away
    | running watching streams phase closing =>
      cases watching with
      | took chunk =>
        rcases chunk with bytes | _ | e
        · rw [advanced_data took, if_neg (not_tellsExit traces _ _)]
          exact ⟨agree, reliable, waits, traces, .inl ⟨sent, onItsWay, items, carried, written,
            heard, uncrossed, .running .idle streams phase closing.of_data⟩⟩
        · rw [advanced_ended took]
          exact ⟨agree, reliable, waits, traces, .inl ⟨sent, onItsWay, items, carried, written,
            heard, uncrossed, .past (.inr ⟨_, rfl⟩) rfl rfl closing.of_ended⟩⟩
        · -- The daemon has ended the stream without an error.
          cases closing
  · rw [advanced_failed failed (WireError.beforeSending_of_isOutage outage)]
    exact ⟨agree, reliable, waits, traces, .inr (.inr ⟨rfl, rfl, rfl⟩)⟩
  · rw [took] at idle
    cases idle

/-- Nothing is read on the way back to commands, whatever is left to be read. -/
theorem Adrift.leave {event : StreamEvent} (adrift : Adrift history x)
    (leaving : x.point = .leaving event) : Adrift history x.advanced := by
  obtain ⟨agree, reliable, waits, traces, course⟩ := adrift
  -- On the way back the end was looked at, so that of the three courses only the first is left.
  rcases course with
    ⟨sent, onItsWay, items, carried, written, heard, uncrossed, parting⟩ |
      ⟨e, failed, _⟩ | ⟨idle, _⟩
  · rw [leaving] at parting
    cases parting with
    | running watching => cases watching
    | past _ stopped disarmed late =>
      rw [advanced_leaving leaving, Session.finish_uncrossed uncrossed]
      exact ⟨agree, reliable, waits, traces, .inl ⟨sent, onItsWay, items, carried, written, heard,
        uncrossed, .past (.inl rfl) stopped disarmed late⟩⟩
  · rw [leaving] at failed
    cases failed
  · rw [leaving] at idle
    cases idle

/-- Whatever happens next, what is left of the stream is known. -/
theorem Adrift.next (adrift : Adrift history x) (step : Next x y) : Adrift history y := by
  obtain ⟨agree, reliable, waits, traces, course⟩ := adrift
  cases step with
  | @arrive reader piece later sent arrived kept =>
    refine ⟨kept.trans agree, reliable, waits, traces, ?_⟩
    rcases course with
      ⟨stopped, onItsWay, items, carried, written, heard, uncrossed, parting⟩ | lost
    · refine .inl ⟨stopped, onItsWay, items, ?_, written, heard, uncrossed, parting⟩
      change Carries x.encoding items (reader.unread ++ later)
      rw [arrived, List.append_assoc, ← sent]
      exact carried
    · exact .inr lost
  -- A daemon that has ended the stream does not go on with it.
  | data streams | refuse streams | exit streams | stopped streams =>
    rw [waits] at streams
    cases streams
  | answer _ free got isResponse =>
    refine ⟨agree, reliable, waits, traces, ?_⟩
    rcases course with
      ⟨sent, onItsWay, items, carried, written, heard, uncrossed, parting⟩ | lost
    · -- The line that the daemon got can only be the stop.
      obtain ⟨rfl, same⟩ := onItsWay_of_got free heard got
      rw [same]
      refine .inl ⟨sent, false, _, carries_outbox carried (.single_reply isResponse), written,
        heard.trans (List.append_nil _).symm, uncrossed, ?_⟩
      cases parting with
      | running watching streams phase closing =>
        refine .running watching streams phase ?_
        rw [pending_append]
        exact closing.answer
      | past away stopped disarmed late => exact .past away stopped disarmed late.answer
    · exact .inr lost
  | advance =>
    match point : x.point with
    | .idle =>
      by_cases streams : x.session.stream.state = .streaming
      · exact Adrift.take ⟨agree, reliable, waits, traces, course⟩ point streams
      · rw [advanced_over point streams]
        exact ⟨agree, reliable, waits, traces, course⟩
    | .took taken => exact Adrift.process ⟨agree, reliable, waits, traces, course⟩ point
    | .leaving event => exact Adrift.leave ⟨agree, reliable, waits, traces, course⟩ point
  | stop => exact Adrift.stop ⟨agree, reliable, waits, traces, course⟩
  | stopElsewhere => exact Adrift.requestStop ⟨agree, reliable, waits, traces, course⟩

/-- Whatever happens after a daemon has ended the stream by itself, what is left of it is known. -/
theorem Comes.adrift {s : Session} (comes : Comes (start s) true x)
    (sound : Sound s.connection.sink.taken (start s)) : Adrift s.connection.sink.taken x := by
  -- The flag is fixed first, as above; the daemon ends the stream once, and what comes after it is
  -- known.
  generalize same : true = byItself at comes
  induction comes with
  | here => cases same
  | next _ step ih => exact (ih same).next step
  | endsItself before streams traces isEnd =>
    have unheard := heard_of_streaming before.reach streams
    exact (sound.reach before.reach).endsItself streams unheard traces isEnd

/-- A connection that is taken to be back at commands, though the answer to one stop is outstanding:
the daemon has still to get the stop, or its answer is all that is left to be read. -/
structure Owed (x : Crossing) : Prop where
  waits : x.daemon = .commands
  answer : x.written = x.heard ++ stopLine ∧ x.session.unread ++ x.outbox = [] ∨
    x.written = x.heard ∧
      ∃ response, ResponseFrame x.encoding response (x.session.unread ++ x.outbox)

/-- A session at rest after an end that the daemon has sent by itself has read every answer if it
wrote no stop, and has left the answer to the stop if it wrote one. -/
theorem Adrift.answered (adrift : Adrift history x) (idle : x.point = .idle)
    (ended : x.session.stream.state = .stopped ∨ x.session.stream.state = .failed) :
    (x.written = history → x.AllAnswered) ∧ (x.written ≠ history → x.Owed) := by
  obtain ⟨_, _, waits, _, course⟩ := adrift
  rcases course with
    ⟨sent, onItsWay, items, carried, written, heard, _, parting⟩ | ⟨_, taken, _⟩ | ⟨_, broken, _⟩
  · cases parting with
    | running _ streams => simp [streams] at ended
    | past _ _ _ late =>
      cases sent with
      | false =>
        refine ⟨fun _ => ?_, fun other => absurd (written.trans (List.append_nil _)) other⟩
        obtain ⟨rfl, rfl⟩ := late.of_unsent
        obtain ⟨unread, outbox⟩ := List.append_eq_nil_iff.mp carried.of_nil
        exact ⟨waits, (heard.trans (List.append_nil _)).symm, outbox, unread⟩
      | true =>
        refine ⟨fun none => ?_, fun _ => ⟨waits, ?_⟩⟩
        · -- A stop has bytes, so one that was written shows.
          rw [none] at written
          exact absurd (List.self_eq_append_right.mp written) (by decide)
        · rcases late.of_sent with ⟨rfl, rfl⟩ | ⟨rfl, rfl⟩
          · exact .inl ⟨heard, carried.of_nil⟩
          · obtain ⟨response, frame, rest, isResponse, behind, whole⟩ := carried.of_reply
            rw [behind.of_nil, List.append_nil] at whole
            exact .inr ⟨heard.trans (List.append_nil _), response, whole ▸ isResponse⟩
  · rw [idle] at taken
    cases taken
  · simp [broken] at ended

/-- In whatever order the daemon, the thread of the session and those that stop it make their steps,
once the session has come to its end every answer is read, unless the daemon has ended a trace of
all programs by itself and a stop was written as well. Then exactly the answer to that stop is
outstanding. -/
theorem ownEnd_answered {request : StreamRequest} {c after : Connection} {stream : Stream}
    {reader : Reader} (opened : Connection.openStream request c = (.ok stream, after))
    -- All that the daemon sends behind its reply to the request is still to arrive.
    (nothing : reader.unread = []) (agree : reader.encoding = after.settings.encoding)
    (reliable : after.sink.Reliable) {byItself : Bool}
    (comes : Comes (start ⟨{ after with reader }, stream⟩) byItself x) (idle : x.point = .idle)
    (ended : x.session.stream.state = .stopped ∨ x.session.stream.state = .failed) :
    (byItself = false ∨ x.written = after.sink.taken → x.AllAnswered) ∧
      (byItself = true → x.written ≠ after.sink.taken → x.Owed) := by
  obtain ⟨info, rfl⟩ := stream_of_opened opened
  -- The session is sound at its start, since nothing is unread and nothing was written.
  have sound : Sound after.sink.taken _ :=
    @Sound.start { after with reader } request.kind info agree nothing reliable
  -- Unless the daemon ended the stream by itself, the answers are those of a sound run.
  cases byItself with
  | false => exact ⟨fun _ => (sound.reach comes.reach).answered idle ended, nofun⟩
  | true =>
    obtain ⟨unasked, asked⟩ := (comes.adrift sound).answered idle ended
    exact ⟨fun none => unasked (none.resolve_left nofun), fun _ => asked⟩

/-- A session with a daemon that agreed to trace all programs. -/
def tracing : Session where
  connection := { following.connection with
    sink := { following.connection.sink with
      taken := [84, 82, 65, 67, 69, 32, 83, 84, 65, 82, 84, 10] } }
  stream := { following.stream with kind := .traceStart }

/-- The end of such a trace crosses with a stop. The session is at rest, and the answer to the stop
is still to be read. -/
theorem tracing_comes : ∃ x, Comes (start tracing) true x ∧ x.point = .idle ∧
    x.session.stream.state = .stopped ∧
    x.written = tracing.connection.sink.taken ++ stopLine ∧
    x.session.unread = [69, 82, 82, 32, 49, 48, 48, 32, 110, 111, 10, 46, 10] := by
  -- The bytes of the run: the end, and then the answer to a stop that is no command any more.
  have sentinel := @LineFrame.of_free .latin1 [46] (by decide)
  have ends : ChunkFrame .latin1 .ended _ :=
    .ended (.of_free [69, 78, 68] (by decide)) sentinel
  have unknown : ResponseFrame .latin1 _ _ :=
    .lines ⟨_, .of_free [69, 82, 82, 32, 49, 48, 48, 32, 110, 111] (by decide), rfl⟩
      (.sentinel sentinel)
  have arrives (x : Crossing) := @Next.arrive x
    ⟨x.session.unread ++ x.outbox, ⟨[], .silent⟩, x.session.connection.reader.encoding⟩
    x.outbox [] (List.append_nil _).symm (List.append_nil _) rfl
  -- The stop is sent first, the daemon ends the stream without having heard it, and the end
  -- arrives.
  have stopped := (@Comes.here (start tracing)).next (.stopElsewhere _)
  have crossed := (stopped.endsItself rfl rfl ends).next (arrives _)
  have looked := (crossed.next (.advance _)).next (.advance _)
  have home := looked.next (.advance _)
  have answered := (home.next
    (@Next.answer _ [83, 84, 79, 80] [] _ _ rfl (by decide) rfl unknown)).next (arrives _)
  exact ⟨_, answered, rfl, rfl, rfl, rfl⟩

/-- A daemon agrees to trace all programs over a transport that takes everything. -/
theorem tracing_opened :
    Connection.openStream (.traceStart []) agreeing = (.ok tracing.stream, tracing.connection) ∧
      tracing.connection.sink.Reliable :=
  -- Both parts hold by computation.
  ⟨rfl, ⟨fun _ member => absurd member List.not_mem_nil, ⟨_, rfl, by decide⟩, rfl⟩⟩

/-- Not every session at rest after its end has read every answer. -/
theorem not_ownEnd_answered : ¬∀ {request : StreamRequest} {c after : Connection} {stream : Stream}
    {reader : Reader}, Connection.openStream request c = (.ok stream, after) →
      reader.unread = [] → reader.encoding = after.settings.encoding → after.sink.Reliable →
        ∀ byItself x, Comes (start ⟨{ after with reader }, stream⟩) byItself x →
          x.point = .idle → x.session.stream.state = .stopped → x.AllAnswered := by
  -- The run above has an answer left to be read.
  intro all
  obtain ⟨opened, reliable⟩ := tracing_opened
  obtain ⟨x, comes, idle, stopped, _, unread⟩ := tracing_comes
  have answered := all opened rfl rfl reliable true x comes idle stopped
  rw [answered.read] at unread
  cases unread

/-- Where a stop crosses with an end that the daemon has sent by itself, its answer is left. -/
theorem ownEnd_answered_tracing : ∃ x, Comes (start tracing) true x ∧ x.point = .idle ∧
    x.session.stream.state = .stopped ∧ x.Owed := by
  -- What was written is more than at the start, so that the second half applies.
  obtain ⟨opened, reliable⟩ := tracing_opened
  obtain ⟨x, comes, idle, stopped, written, _⟩ := tracing_comes
  have more : x.written ≠ tracing.connection.sink.taken := by
    rw [written]
    exact fun same => absurd (List.append_right_eq_self.mp same) (by decide)
  exact ⟨x, comes, idle, stopped,
    (ownEnd_answered opened rfl rfl reliable comes idle (.inl stopped)).2 rfl more⟩

end Crossing
end AmigaRemote
