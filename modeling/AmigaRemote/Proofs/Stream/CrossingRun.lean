import AmigaRemote.Proofs.Stream.ExitNotice
import AmigaRemote.Proofs.Stream.Settled

/-! However a stop crosses with the end of a stream, it is written once at most, and once the stream
is over everything that was written is answered and every answer is read. -/

namespace AmigaRemote.Crossing

variable {x y : Crossing} {history : Bytes}

section Situations

variable {exits : Bytes → Prop} {point : Point} {stream : Stream} {duty : Duty}
  {onItsWay : Bool} {items : List Item}

/-- What the daemon sends next while it streams comes last, and a stop that was sent is on its way
until then. -/
theorem Situation.continue_streaming {onItsWay' : Bool} {next : List Item}
    (situation : Situation exits point stream .streaming onItsWay items)
    (last : Ahead exits .streaming stream.stopRequested stream.stopRequested [] →
      Ahead exits duty stream.stopRequested onItsWay' next) :
    onItsWay = stream.stopRequested ∧
      Situation exits point stream duty onItsWay' (items ++ next) := by
  -- The daemon still streams, so the session has seen no end.
  cases situation with
  | running watching streams stoppable uncrossed ahead =>
    refine ⟨ahead.streaming_sent, .running watching streams stoppable uncrossed ?_⟩
    rw [pending_append]
    exact ahead.continue_streaming last

/-- The answer to a stop that comes after the end comes last. -/
theorem Situation.answer (situation : Situation exits point stream .commands true items) :
    Situation exits point stream .commands false (items ++ [.reply]) := by
  -- The answer comes last, whatever the session has seen of the end by now.
  cases situation with
  | running watching streams stoppable uncrossed ahead =>
    refine .running watching streams stoppable uncrossed ?_
    rw [pending_append]
    exact ahead.answer
  | noticed watching streams disarmed ending late =>
    refine .noticed watching streams disarmed ?_ late.answer
    rw [pending_append, ending]
    rfl
  | leaving ended disarmed late => exact .leaving ended disarmed late.answer

end Situations

/-- All that the daemon can still get is one stop. -/
theorem onItsWay_of_got {onItsWay : Bool} {line rest : Bytes} (free : Line.feed ∉ line)
    (heard : x.written = x.heard ++ if onItsWay then stopLine else [])
    (got : x.written = x.heard ++ (line ++ [Line.feed]) ++ rest) :
    onItsWay = true ∧ line ++ [Line.feed] = stopLine := by
  rw [heard, List.append_assoc] at got
  have same := List.append_cancel_left got
  -- Nothing is on its way but what was written and not heard.
  cases onItsWay with
  | false => simp at same
  | true =>
    -- Both are one line, and no line ends before its line end.
    have whole : Command.stop.verb.map (fun c => UInt8.ofNat c.toNat) ++ Line.feed :: []
        = line ++ Line.feed :: rest := by
      simpa [stopLine, Chunk.plainLine] using same
    obtain ⟨rfl, _⟩ := split_of_free (by decide) free whole
    exact ⟨rfl, rfl⟩

/-- The bytes that the daemon sends join those that are to be read. -/
theorem carries_outbox {items more : List Item} {frame : Bytes}
    (carried : Carries x.encoding items (x.session.unread ++ x.outbox))
    (sent : Carries x.encoding more frame) :
    Carries x.encoding (items ++ more) (x.session.unread ++ (x.outbox ++ frame)) := by
  -- The new bytes stand behind all that was sent before.
  rw [← List.append_assoc]
  exact carried.append sent

/-- What the daemon does leaves the session knowing what is ahead of it, if it does so as long as
nothing is lost. -/
theorem Sound.daemon (sound : Sound history x) {duty : Duty} {heard outbox : Bytes}
    (aligned : ∀ onItsWay items, Aligned x onItsWay items → ∃ onItsWay' items',
      Aligned { x with daemon := duty, heard, outbox } onItsWay' items') :
    Sound history { x with daemon := duty, heard, outbox } := by
  -- The daemon touches neither the session nor what it wrote, so that only the course is concerned.
  refine ⟨sound.agree, sound.reliable, sound.once, ?_⟩
  rcases sound.course with ⟨onItsWay, items, known⟩ | lost
  · exact .inl (aligned onItsWay items known)
  · exact .inr lost

/-- Whatever happens next, the session knows what is ahead of it. -/
theorem Sound.next (sound : Sound history x) (step : Next x y) : Sound history y := by
  cases step with
  | arrive sent arrived kept =>
    refine ⟨kept.trans sound.agree, sound.reliable, sound.once, ?_⟩
    rcases sound.course with ⟨onItsWay, items, carried, heard, situation⟩ | lost
    · -- Bytes on their way become bytes that are unread, and stay in order.
      refine .inl ⟨onItsWay, items, ?_, heard, situation⟩
      rename_i reader piece later
      change Carries x.encoding items (reader.unread ++ later)
      rw [arrived, List.append_assoc, ← sent]
      exact carried
    · exact .inr lost
  | data streams ordinary isData =>
    -- Data that is no notice may be followed by anything.
    refine sound.daemon fun onItsWay items ⟨carried, heard, situation⟩ => ?_
    rw [streams] at situation
    obtain ⟨rfl, onward⟩ := situation.continue_streaming (Ahead.data ordinary)
    rw [← streams] at onward
    exact ⟨_, _, carries_outbox carried (.single_chunk isData), heard, onward⟩
  | refuse streams isError =>
    -- After an error the daemon takes a stop that is on its way for a command.
    refine sound.daemon fun onItsWay items ⟨carried, heard, situation⟩ => ?_
    rw [streams] at situation
    obtain ⟨rfl, onward⟩ := situation.continue_streaming fun _ => Ahead.aborted (Late.at_end _)
    exact ⟨_, _, carries_outbox carried (.single_chunk isError), heard, onward⟩
  | exit streams tells isNotice isEnd =>
    refine sound.daemon fun onItsWay items ⟨carried, heard, situation⟩ => ?_
    rw [streams] at situation
    -- A notice and the end behind it are sent together.
    obtain ⟨rfl, onward⟩ :=
      situation.continue_streaming fun _ => Ahead.exited tells (Late.at_end _)
    exact ⟨_, _, carries_outbox carried ((Carries.single_chunk isNotice).append
      (.single_chunk isEnd)), heard, onward⟩
  | stopped streams got isEnd =>
    refine sound.daemon fun onItsWay items ⟨carried, heard, situation⟩ => ?_
    obtain ⟨rfl, _⟩ := onItsWay_of_got (by decide) heard got
    rw [streams] at situation
    -- The stop was sent before, so its answer is the end of the stream.
    have sent := (situation.continue_streaming id).1
    have onward := (situation.continue_streaming fun _ => sent ▸ Ahead.stopped).2
    exact ⟨_, _, carries_outbox carried (.single_chunk isEnd),
      heard.trans (List.append_nil _).symm, onward⟩
  | answer waits free got isResponse =>
    refine sound.daemon fun onItsWay items ⟨carried, heard, situation⟩ => ?_
    -- The line that the daemon got can only be the stop.
    obtain ⟨rfl, same⟩ := onItsWay_of_got free heard got
    rw [waits] at situation
    have onward := situation.answer
    rw [← waits] at onward
    rw [same]
    exact ⟨_, _, carries_outbox carried (.single_reply isResponse),
      heard.trans (List.append_nil _).symm, onward⟩
  | advance => exact sound.advance
  | stop => exact sound.stop
  | stopElsewhere => exact sound.requestStop

/-- Whatever happens, the session knows what is ahead of it. -/
theorem Sound.reach (sound : Sound history x) (reached : Reach x y) : Sound history y := by
  -- The invariant goes through the run step by step.
  induction reached with
  | here => exact sound
  | next _ step ih => exact ih.next step

/-- A stream that was opened goes on, with a stop still to be sent. -/
theorem stream_of_opened {request : StreamRequest} {c after : Connection} {stream : Stream}
    (opened : Connection.openStream request c = (.ok stream, after)) :
    ∃ info, stream = ⟨request.kind, info, .streaming, .armed, false, none⟩ := by
  unfold Connection.openStream at opened
  obtain ⟨_, _, _, opened⟩ := Step.bind_eq_ok.mp opened
  obtain ⟨⟨status, info⟩, _, _, opened⟩ := Step.bind_eq_ok.mp opened
  -- An error in reply would have been thrown.
  cases status with
  | ok =>
    cases opened
    exact ⟨info, rfl⟩
  | err =>
    obtain ⟨_, _, _, thrown⟩ := Step.bind_eq_ok.mp opened
    cases thrown

/-- At the beginning of a stream nothing is ahead of the session but what the daemon will send. -/
theorem Sound.start {c : Connection} {kind : StreamKind} {info : Text}
    (agree : c.reader.encoding = c.settings.encoding) (nothing : c.reader.unread = [])
    (reliable : c.sink.Reliable) :
    Sound c.sink.taken (start ⟨c, ⟨kind, info, .streaming, .armed, false, none⟩⟩) := by
  -- Neither end of the connection has anything more to say about what came before.
  refine ⟨agree, reliable, .inl rfl, .inl ⟨false, [], ?_, ?_, ?_⟩⟩
  · change Carries _ [] (c.reader.unread ++ [])
    rw [nothing]
    exact .nothing
  · exact (List.append_nil _).symm
  · exact .running .idle rfl nofun rfl .streaming

/-- A connection that is back at commands: the daemon has got all that was written and has answered
it, and nothing of its answers is left to be read. -/
structure AllAnswered (x : Crossing) : Prop where
  waits : x.daemon = .commands
  heard : x.heard = x.written
  arrived : x.outbox = []
  read : x.session.unread = []

/-- A session that is at rest after the end of its stream has read every answer. -/
theorem Sound.answered (sound : Sound history x) (idle : x.point = .idle)
    (ended : x.session.stream.state = .stopped ∨ x.session.stream.state = .failed) :
    x.AllAnswered := by
  rcases sound.course with
    ⟨onItsWay, items, carried, heard, situation⟩ | ⟨_, taken, _⟩ | ⟨_, broken, _⟩
  · rw [idle] at situation
    generalize duty : x.daemon = d at situation
    -- At rest after the end is the one situation in which nothing is left to come.
    cases situation with
    | running _ streams => simp [streams] at ended
    | noticed _ streams => simp [streams] at ended
    | home =>
      obtain ⟨unread, outbox⟩ := List.append_eq_nil_iff.mp carried.of_nil
      exact ⟨duty, (heard.trans (List.append_nil _)).symm, outbox, unread⟩
  · rw [idle] at taken
    cases taken
  · simp [broken] at ended

/-- Only an outage keeps a session from the next chunk. -/
theorem Sound.outage {e : WireError} (sound : Sound history x) (took : x.point = .took (.error e)) :
    e.isOutage = true := by
  -- An aligned session has met no error, and one that lost something knows which.
  rcases sound.course with ⟨_, _, _, _, situation⟩ | ⟨_, taken, outage⟩ | ⟨idle, _⟩
  · rw [took] at situation
    exact situation.no_error.elim
  · rw [took] at taken
    cases taken
    exact outage
  · rw [took] at idle
    cases idle

/-- Only an outage keeps a session from going back to commands after the end. -/
theorem Sound.finish_outage {event : StreamEvent} {e : ClientError} {s : Session}
    (sound : Sound history x) (leaving : x.point = .leaving event)
    (failed : Session.finish x.session = (.error e, s)) :
    ∃ w, e = .wire w ∧ w.isOutage = true := by
  -- The way back succeeds, or the answer to a late stop is cut off.
  rcases sound.finish_cases leaving with ⟨_, home⟩ | ⟨_, w, cutOff⟩
  · rw [home.finished] at failed
    cases failed
  · rw [cutOff.finished] at failed
    cases failed
    exact ⟨w, rfl, cutOff.outage⟩

/-- In whatever order the daemon, the thread of the session and those that stop it make their steps:
a stop is written once at most, and never after the session has looked at an end or at a notice of
the exit. When a session has come to its end everything that was written is answered, and exactly
these answers are read. Nothing but an outage keeps it from that. One to three steps of the thread
make up an event, and what the daemon says at the end of a traced program is a notice of the
exit. -/
theorem stop_aligned {request : StreamRequest} {c after : Connection} {stream : Stream}
    {reader : Reader} (opened : Connection.openStream request c = (.ok stream, after))
    -- All that the daemon sends behind its reply to the request is still to arrive.
    (nothing : reader.unread = []) (agree : reader.encoding = after.settings.encoding)
    (reliable : after.sink.Reliable) (reached : Reach (start ⟨{ after with reader }, stream⟩) x) :
    (x.written = after.sink.taken ∨ x.written = after.sink.taken ++ stopLine) ∧
    (∀ chunk, x.point = .took (.ok chunk) → x.TellsEnd chunk →
      ∀ y, Reach x.advanced y → y.written = x.written) ∧
    (x.point = .idle → x.session.stream.state = .stopped ∨ x.session.stream.state = .failed →
      x.AllAnswered) ∧
    (∀ e, x.point = .took (.error e) → e.isOutage = true) ∧
    (∀ event e s, x.point = .leaving event → Session.finish x.session = (.error e, s) →
      ∃ w, e = .wire w ∧ w.isOutage = true) ∧
    (∃ n, (1 ≤ n ∧ n ≤ 3) ∧ Nat.repeat Session.thread n (.idle, x.session)
      = (.idle, (Session.nextEvent x.session).2)) ∧
    ∀ rc ends, (∀ c ∈ ends, c = '\r' ∨ c = '\n') → ∃ bytes,
      x.encoding.encode (exitNotice rc ++ ends) = .ok bytes ∧
        TellsExit .traceRun x.encoding bytes := by
  obtain ⟨info, rfl⟩ := stream_of_opened opened
  -- The invariant holds at the beginning, so it holds of all that comes about.
  have sound : Sound after.sink.taken x :=
    (@Sound.start { after with reader } request.kind info agree nothing reliable).reach reached
  have atMostOne : x.written = after.sink.taken ∨ x.written = after.sink.taken ++ stopLine := by
    rcases sound.once with none | ⟨_, one⟩
    · exact .inl none
    · exact .inr one
  refine ⟨atMostOne, ?_, sound.answered, fun _ => sound.outage,
    fun _ _ _ => sound.finish_outage, Session.nextEvent_thread x.session,
    fun rc _ lineEnds => tellsExit_exitNotice lineEnds x.encoding rc⟩
  -- From the end or the notice on no stop may be sent any more.
  intro chunk took tells y later
  have settled := settled_of_tellsEnd took tells
  exact (settled_reach settled later).same

/-- A session with a daemon that agreed to follow a file. -/
def following : Session where
  connection := {
    reader := ⟨[], ⟨[], .silent⟩, .latin1⟩
    sink := ⟨[], .upTo UInt64.size, none, [84, 65, 73, 76, 32, 120, 10]⟩
    settings := .usual
    health := .ready
    waitLimit? := Settings.usual.streamLimit?
    banner := "AMIGACTL 1.0.0".toList
    version := ⟨1, 0, 0⟩ }
  stream := ⟨.tail, [], .streaming, .armed, false, none⟩

/-- A connection on which a daemon will agree to follow a file. -/
def agreeing : Connection :=
  { following.connection with
    reader := ⟨[], ⟨[.bytes [79, 75, 10] (by decide)], .silent⟩, .latin1⟩
    sink := .accepting
    waitLimit? := Settings.usual.replyLimit? }

/-- A stop that crosses with an error is answered by an error of its own, which is read as well. -/
theorem stop_aligned_error :
    Connection.openStream (.tail ['x']) agreeing = (.ok following.stream, following.connection) ∧
    ∃ x, Reach (start following) x ∧ x.session.stream.state = .failed ∧
      x.written = following.connection.sink.taken ++ stopLine ∧ x.AllAnswered := by
  have sentinel := @LineFrame.of_free .latin1 [46] (by decide)
  have broken : ChunkFrame .latin1 (.aborted _) _ :=
    .aborted (.refusal
      ⟨_, .of_free [69, 82, 82, 32, 53, 48, 48, 32, 111] (by decide), rfl⟩ sentinel)
  have unknown : ResponseFrame .latin1 _ _ :=
    .lines ⟨_, .of_free [69, 82, 82, 32, 49, 48, 48, 32, 110, 111] (by decide), rfl⟩
      (.sentinel sentinel)
  -- Whatever is on its way may arrive in one piece.
  have arrives (x : Crossing) := @Next.arrive x
    ⟨x.session.unread ++ x.outbox, ⟨[], .silent⟩, x.session.connection.reader.encoding⟩
    x.outbox [] (List.append_nil _).symm (List.append_nil _) rfl
  have stopped := (Reach.here (start following)).next (.stopElsewhere _)
  have refused := (stopped.next (.refuse rfl broken)).next (arrives _)
  have looked := (refused.next (.advance _)).next (.advance _)
  have answered := (looked.next
    (@Next.answer _ [83, 84, 79, 80] [] _ _ rfl (by decide) rfl unknown)).next (arrives _)
  obtain ⟨y, reached, leaving, failed, crossed, written, arrived⟩ : ∃ y, Reach (start following) y ∧
      y.point = .leaving (.aborted (.ofInfo "500 o".toList)) ∧ y.session.stream.state = .failed ∧
      y.session.stream.crossedStop = true ∧
      y.written = following.connection.sink.taken ++ stopLine ∧
      y.session.connection.reader
        = ⟨[69, 82, 82, 32, 49, 48, 48, 32, 110, 111, 10, 46, 10], ⟨[], .silent⟩, .latin1⟩ :=
    ⟨_, answered, rfl, rfl, rfl, rfl, rfl⟩
  -- The answer to the stop is there, so it is read on the way back to commands.
  have lines : Reader.readLines ⟨[46, 10], ⟨[], .silent⟩, .latin1⟩
      = (.ok [], ⟨[], ⟨[], .silent⟩, .latin1⟩) := by
    unfold Reader.readLines Reader.readLinesAfter
    rfl
  have read : Reader.readResponse y.session.connection.reader
      = (.ok ⟨.err, "100 no".toList, .lines []⟩, ⟨[], ⟨[], .silent⟩, .latin1⟩) := by
    rw [arrived]
    exact Step.bind_eq_ok.mpr ⟨_, _, rfl, Step.bind_eq_ok.mpr ⟨_, _, lines, rfl⟩⟩
  have home := Session.finish_answered crossed read
  have step := advanced_leaving leaving
  rw [home] at step
  have last := reached.next (.advance y)
  rw [step] at last
  have opened : Connection.openStream (.tail ['x']) agreeing
      = (.ok following.stream, following.connection) := rfl
  have reliable : following.connection.sink.Reliable :=
    ⟨fun _ member => absurd member List.not_mem_nil, ⟨_, rfl, by decide⟩, rfl⟩
  have all := (stop_aligned opened rfl rfl reliable last).2.2.1
  exact ⟨opened, _, last, failed, written, all rfl (.inr failed)⟩

end AmigaRemote.Crossing
