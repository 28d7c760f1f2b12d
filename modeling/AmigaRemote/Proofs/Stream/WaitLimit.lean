import AmigaRemote.Proofs.Client.Steady
import AmigaRemote.Proofs.Stream.Shared

/-! How long a connection waits for bytes: as long as for a reply, except that the events of a
stream that was not stopped may be waited for longer. -/

namespace AmigaRemote

/-- A thread that does not go back to commands changes no limit. -/
theorem Session.advance_steady (s : Session) {point : Point}
    (staying : ∀ event, point ≠ .leaving event) :
    Connection.Steady s.connection (s.advance point).2.connection := by
  cases point with
  | idle =>
    simp only [advance]
    split
    · exact .refl _
    · exact ⟨⟨rfl, id⟩, rfl⟩
  | took taken =>
    rcases taken with e | body | _ | e
    -- A failure may break the connection, and all else is noted in the stream alone.
    · exact Connection.guard_steady (α := StreamEvent) (.error e) (.refl _)
    · exact .refl _
    · exact .refl _
    · exact .refl _
  | leaving event => exact absurd rfl (staying event)

/-- To ask for a stop may change the limit, but nothing else that lasts. -/
theorem Session.requestStop_lasts (s : Session) :
    Connection.Lasts s.connection (requestStop s).2.connection := by
  -- A request sets the limit of the connection if it is made, and else nothing.
  have requested := requestStop_requested s
  generalize requestStop s = outcome at requested ⊢
  cases requested with
  | unarmed => exact ⟨rfl, id⟩
  | written => exact ⟨rfl, id⟩
  | refused => exact ⟨rfl, id⟩

/-- To stop from within may change the limit, but nothing else that lasts. -/
theorem Session.stop_lasts (s : Session) :
    Connection.Lasts s.connection (stop s).2.connection := by
  -- As for a request, with a failure that breaks the connection besides.
  have stops := stop_stops s
  generalize stop s = outcome at stops ⊢
  cases stops with
  | isOver => exact ⟨rfl, id⟩
  | unarmed => exact ⟨rfl, id⟩
  | written => exact ⟨rfl, id⟩
  | refused => exact ⟨rfl, nofun⟩

namespace Shared

variable {x y : Shared}

/-- Whatever happens, the settings stay, and a connection of no use stays so. -/
theorem Next.lasts (step : Next x y) : Connection.Lasts x.connection y.connection := by
  open Connection in
  -- One case for each step, most of which are parts of operations.
  cases step with
  | operate _ single => exact (Operation.perform_steady single _).toLasts
  | ask _ sent => exact (Steady.of_keeps (send_steady _) sent).toLasts
  | unasked _ failed => exact (Steady.of_keeps (send_steady _) failed).toLasts
  | opened _ heard =>
    obtain ⟨lasts, _⟩ := Steady.of_keeps (receive_steady _) heard
    exact ⟨lasts.settings, lasts.ready⟩
  | refused _ heard => exact (Steady.of_keeps (receive_steady _) heard).toLasts
  | unheard _ failed => exact (Steady.of_keeps (receive_steady _) failed).toLasts
  | dismissed => exact (receive_steady _ (.refl _)).toLasts
  | @advance stream _ _ staying =>
    exact (Session.advance_steady ⟨x.connection, stream⟩ staying).toLasts
  | leave => exact ⟨rfl, id⟩
  | answered _ heard => exact (Steady.of_keeps (receive_steady _) heard).toLasts
  | unanswered _ failed => exact (Steady.of_keeps (receive_steady _) failed).toLasts
  | @stop stream => exact Session.stop_lasts ⟨x.connection, stream⟩
  | @stopElsewhere stream => exact Session.requestStop_lasts ⟨x.connection, stream⟩
  | @stopEarlier stream => exact Session.requestStop_lasts ⟨x.connection, stream⟩
  | giveUp => exact ⟨rfl, id⟩

end Shared

/-- Which limit is in force over a usable connection, and that no stop may be written any more for a
stream that is over. -/
inductive Stage.InForce (c : Connection) (stopped : Bool) : Stage → Prop where
  | commands (reply : c.waitLimit? = c.settings.replyLimit?) : InForce c stopped .commands
  | opening {request : StreamRequest} (reply : c.waitLimit? = c.settings.replyLimit?) :
    InForce c stopped (.opening request)
  | refused (reply : c.waitLimit? = c.settings.replyLimit?) : InForce c stopped .refused
  | streaming {stream : Stream} {point : Point} (streams : stream.state = .streaming)
    (staying : ∀ event, point ≠ .leaving event)
    (late : ∀ e, point = .took (.error e) → e.beforeSending = false)
    (limit : c.waitLimit?
      = if stopped then c.settings.replyLimit? else c.settings.streamLimit?) :
    InForce c stopped (.following stream point)
  /-- The limit is about to be set. -/
  | leaving {stream : Stream} {event : StreamEvent} (isOver : stream.isOver = true)
    (unarmed : stream.phase ≠ .armed) : InForce c stopped (.following stream (.leaving event))
  | home {stream : Stream} (isOver : stream.isOver = true) (unarmed : stream.phase ≠ .armed)
    (reply : c.waitLimit? = c.settings.replyLimit?) : InForce c stopped (.following stream .idle)
  | answering {stream : Stream} (isOver : stream.isOver = true) (unarmed : stream.phase ≠ .armed)
    (reply : c.waitLimit? = c.settings.replyLimit?) : InForce c stopped (.answering stream)

/-- Whether no stream goes on, so that what is waited for next is a reply. -/
def Stage.awaitsReply : Stage → Bool
  | following stream .idle => stream.isOver
  | following _ _ => false
  | _ => true

/-- Where a reply is waited for, the limit in force is the one for replies. -/
theorem Stage.InForce.reply {c : Connection} {stopped : Bool} {stage : Stage}
    (inForce : InForce c stopped stage) (awaits : stage.awaitsReply = true) :
    c.waitLimit? = c.settings.replyLimit? := by
  -- Only a stage that waits for a reply is left, and the invariant says so of each.
  cases inForce with
  | @streaming _ point streams =>
    have goesOn := Stream.isOver_eq_false.mpr streams
    cases point with
    | idle => simp [awaitsReply, goesOn] at awaits
    | _ => cases awaits
  | leaving => cases awaits
  | _ => assumption

/-- Where a stream goes on, the limit in force tells whether a stop was written for it. -/
theorem Stage.InForce.streams {c : Connection} {stopped : Bool} {stream : Stream} {point : Point}
    (inForce : InForce c stopped (.following stream point)) (streams : stream.state = .streaming) :
    c.waitLimit? = if stopped then c.settings.replyLimit? else c.settings.streamLimit? := by
  -- Of a stream that goes on the thread has not set out for commands.
  have goesOn := Stream.isOver_eq_false.mpr streams
  cases inForce with
  | streaming _ _ _ limit => exact limit
  | leaving isOver =>
    rw [goesOn] at isOver
    cases isOver
  | home isOver =>
    rw [goesOn] at isOver
    cases isOver

/-- Among commands a reply is waited for. -/
theorem Stage.InForce.of_commands {c : Connection} {stopped : Bool} {stage : Stage}
    (commands : stage = .commands) (reply : c.waitLimit? = c.settings.replyLimit?) :
    InForce c stopped stage := by
  -- The stage is replaced by commands, of which the claim is a constructor.
  rw [commands]
  exact .commands reply

/-- A thread that waits for the next chunk has no chunk that could have failed. -/
theorem Stage.InForce.idle {c : Connection} {stream : Stream} {stopped : Bool}
    (streams : stream.state = .streaming) (limit : c.waitLimit?
      = if stopped then c.settings.replyLimit? else c.settings.streamLimit?) :
    InForce c stopped (.following stream .idle) :=
  -- The point holds no chunk, so that the two conditions on chunks are empty.
  .streaming streams (fun _ same => by cases same) (fun _ same => by cases same) limit

/-- A thread that took a chunk looks at it before it goes back to commands. -/
theorem Stage.InForce.took {c : Connection} {stream : Stream} {stopped : Bool}
    {taken : Except WireError Chunk} (streams : stream.state = .streaming)
    (late : ∀ e, taken = .error e → e.beforeSending = false) (limit : c.waitLimit?
      = if stopped then c.settings.replyLimit? else c.settings.streamLimit?) :
    InForce c stopped (.following stream (.took taken)) :=
  -- As above, with the one chunk that was taken.
  .streaming streams (fun _ same => by cases same)
    (fun e same => late e (Point.took.inj same)) limit

/-- A connection with the limit in force that its stage asks for, and with nobody left who could
write a stop for an earlier session. -/
structure Shared.Timed (x : Shared) : Prop where
  inForce : x.stage.InForce x.connection x.stopped
  unarmed : ∀ stream ∈ x.earlier, stream.phase ≠ .armed

/-- A thread that takes a chunk or looks at one keeps the limit in force. -/
theorem Stage.InForce.advance {s : Session} {point : Point} {stopped : Bool}
    (inForce : InForce s.connection stopped (.following s.stream point))
    (staying : ∀ event, point ≠ .leaving event)
    (ready : (s.advance point).2.connection.health = .ready) :
    InForce (s.advance point).2.connection stopped
      (.following (s.advance point).2.stream (s.advance point).1) := by
  cases inForce with
  | leaving => exact absurd rfl (staying _)
  | home isOver unarmed reply =>
    -- Of a stream that is over nothing is read.
    simp only [Session.advance, isOver, if_true]
    exact .home isOver unarmed reply
  | streaming streams _ late limit =>
    cases point with
    | leaving event => exact absurd rfl (staying event)
    | idle =>
      have goesOn : s.stream.isOver = false := Stream.isOver_eq_false.mpr streams
      simp only [Session.advance, goesOn, Bool.false_eq_true, if_false]
      refine .took streams (fun e failed => ?_) limit
      exact Reader.readChunk_failsOnWire (Prod.ext failed rfl)
    | took taken =>
      rcases taken with e | chunk
      · -- What fails while reading breaks the connection.
        rw [Session.advance_lost (late e rfl)] at ready
        cases ready
      · rcases chunk.block_or_end with ⟨body, rfl⟩ | ⟨why, rfl⟩
        · rw [Session.advance_data]
          exact .idle ((s.stream.pass_state _ body).trans streams) limit
        · rw [Session.advance_ofEnd]
          exact .leaving (s.stream.conclude_isOver why) (s.stream.conclude_unarmed why)

/-- A stop asked for keeps the limit in force, wherever the thread of the session is. -/
theorem Stage.InForce.requestStop {c : Connection} {stream : Stream} {stage : Stage}
    {stopped : Bool} (inForce : InForce c stopped stage) (open_ : stage.stream? = some stream) :
    InForce (Session.requestStop ⟨c, stream⟩).2.connection
      (stopped || Session.writesStop ⟨c, stream⟩)
      (stage.withStream (Session.requestStop ⟨c, stream⟩).2.stream) := by
  -- Without the right to a stop there is nothing to be done.
  have nothing (unarmed : stream.phase ≠ .armed) (inForce : InForce c stopped stage) :
      InForce (Session.requestStop ⟨c, stream⟩).2.connection
        (stopped || Session.writesStop ⟨c, stream⟩)
        (stage.withStream (Session.requestStop ⟨c, stream⟩).2.stream) := by
    rw [@Session.requestStop_unarmed ⟨c, stream⟩ unarmed,
      @Session.writesStop_unarmed ⟨c, stream⟩ unarmed, Bool.or_false, Stage.withStream_self open_]
    exact inForce
  cases inForce with
  | commands => cases open_
  | opening => cases open_
  | refused => cases open_
  | leaving isOver unarmed =>
    cases open_
    exact nothing unarmed (.leaving isOver unarmed)
  | home isOver unarmed reply =>
    cases open_
    exact nothing unarmed (.home isOver unarmed reply)
  | answering isOver unarmed reply =>
    cases open_
    exact nothing unarmed (.answering isOver unarmed reply)
  | streaming streams staying late limit =>
    cases open_
    have requested := Session.requestStop_requested ⟨c, stream⟩
    by_cases armed : stream.phase = .armed
    · -- The limit changes exactly if the stop is written.
      generalize Session.requestStop ⟨c, stream⟩ = outcome at requested ⊢
      cases requested with
      | unarmed unarmed => exact absurd armed unarmed
      | written _ attempt =>
        have writes : Session.writesStop ⟨c, stream⟩ = true := by
          simp [Session.writesStop, armed, attempt, Except.isOk, Except.toBool]
        rw [writes, Bool.or_true]
        exact .streaming streams staying late rfl
      | refused _ attempt =>
        have writes : Session.writesStop ⟨c, stream⟩ = false := by
          simp [Session.writesStop, attempt, Except.isOk, Except.toBool]
        rw [writes, Bool.or_false]
        exact .streaming streams staying late limit
    · exact nothing armed (.streaming streams staying late limit)

/-- A stop from within that leaves a usable connection is as good as one from elsewhere. -/
theorem Session.stop_requestStop {s : Session} (streams : s.stream.state = .streaming)
    (ready : (stop s).2.connection.health = .ready) : (stop s).2 = (requestStop s).2 := by
  have goesOn : s.stream.isOver = false := Stream.isOver_eq_false.mpr streams
  have requested := requestStop_requested s
  rcases asked : requestStop s with ⟨e | _, after⟩
  · -- A stop that could not be written would have broken the connection.
    rw [asked] at requested
    cases requested with
    | refused _ attempt =>
      have late := stop_outage attempt
      simp [stop, goesOn, asked, Step.bind_apply, enter, update, onConnection, Connection.guard,
        late, Connection.breakOff] at ready
  · simp [stop, goesOn, asked]

namespace Shared

variable {x y : Shared} {settings : Settings}

/-- Over a connection with the right limit, a stop of an earlier session does nothing. -/
theorem Timed.requestStop_earlier (timed : Timed x) {stream : Stream}
    (held : stream ∈ x.earlier) :
    Session.requestStop ⟨x.connection, stream⟩ = (.ok (), ⟨x.connection, stream⟩) :=
  -- The handles of earlier sessions are disarmed, as the invariant has it.
  Session.requestStop_unarmed (timed.unarmed stream held)

/-- As long as the connection is of use, every step leaves the limit in force that is asked for. -/
theorem Timed.next (timed : Timed x) (step : Next x y) (ready : y.connection.health = .ready) :
    Timed y := by
  obtain ⟨inForce, unarmed⟩ := timed
  open Connection in
  -- Most steps find the limit for replies in force, and leave it so.
  have reply {c : Connection} (awaits : x.stage.awaitsReply = true)
      (steady : Steady x.connection c) : c.waitLimit? = c.settings.replyLimit? :=
    steady.reply (inForce.reply awaits)
  cases step with
  | operate commands single =>
    have steady := Operation.perform_steady single x.connection
    exact ⟨.of_commands commands (reply (by rw [commands]; rfl) steady), unarmed⟩
  | ask commands sent =>
    have steady := Steady.of_keeps (send_steady _) sent
    exact ⟨.opening (reply (by rw [commands]; rfl) steady), unarmed⟩
  | unasked commands failed =>
    have steady := Steady.of_keeps (send_steady _) failed
    exact ⟨.of_commands commands (reply (by rw [commands]; rfl) steady), unarmed⟩
  -- Where a stream begins its limit is set, and no stop was written for it.
  | opened => exact ⟨.idle rfl rfl, unarmed⟩
  | refused opening heard =>
    have steady := Steady.of_keeps (receive_steady _) heard
    exact ⟨.refused (reply (by rw [opening]; rfl) steady), unarmed⟩
  | unheard opening failed =>
    have steady := Steady.of_keeps (receive_steady _) failed
    exact ⟨.commands (reply (by rw [opening]; rfl) steady), unarmed⟩
  | dismissed refused =>
    have steady := receive_steady Reader.expectSentinel (.refl x.connection)
    exact ⟨.commands (reply (by rw [refused]; rfl) steady), unarmed⟩
  | @advance stream _ following staying =>
    rw [following] at inForce
    exact ⟨@Stage.InForce.advance ⟨x.connection, stream⟩ _ _ inForce staying ready, unarmed⟩
  | @leave stream _ following =>
    rw [following] at inForce
    refine ⟨?_, unarmed⟩
    cases inForce with
    | streaming _ staying => exact absurd rfl (staying _)
    | leaving isOver unarmed =>
      -- The limit is set first, whether an answer is to be read after it or not.
      dsimp only
      split
      · exact .answering isOver unarmed rfl
      · exact .home isOver unarmed rfl
  | answered answering heard =>
    have quick := reply (by rw [answering]; rfl) (Steady.of_keeps (receive_steady _) heard)
    rw [answering] at inForce
    cases inForce with
    | answering isOver off => exact ⟨.home isOver off quick, unarmed⟩
  | unanswered answering failed =>
    have quick := reply (by rw [answering]; rfl) (Steady.of_keeps (receive_steady _) failed)
    rw [answering] at inForce
    cases inForce with
    | answering _ off => exact ⟨.home rfl off quick, unarmed⟩
  | @stop stream following goesOn =>
    refine ⟨?_, unarmed⟩
    have open_ : x.stage.stream? = some stream := by
      rw [following]
      rfl
    have asked := inForce.requestStop open_
    rw [following] at asked
    -- Had the stop failed the connection would be of no use.
    simp only [goOn]
    rwa [@Session.stop_requestStop ⟨x.connection, stream⟩ goesOn ready]
  | stopElsewhere open_ => exact ⟨inForce.requestStop open_, unarmed⟩
  | @stopEarlier stream front behind held =>
    have among : stream ∈ x.earlier := by simp [held]
    -- What is left of a session that came to its end gives no right to a stop.
    have nothing := Timed.requestStop_earlier ⟨inForce, unarmed⟩ among
    refine ⟨?_, ?_⟩
    · dsimp only
      rwa [nothing]
    · dsimp only
      rwa [nothing, ← held]
  | @giveUp stream following done =>
    rw [following] at inForce
    -- Over a usable connection a session comes to its end only with its stream.
    have isOver := done.resolve_right (not_not_intro ready)
    cases inForce with
    | streaming streams =>
      rw [Stream.isOver_eq_false.mpr streams] at isOver
      cases isOver
    | home _ off reply =>
      refine ⟨.commands reply, fun old held => ?_⟩
      rcases List.mem_cons.mp held with rfl | held
      · exact off
      · exact unarmed old held

/-- As long as the connection is of use, every run leaves the limit in force that is asked for. -/
theorem Timed.reach (timed : Timed x) (reached : Reach x y) (ready : y.connection.health = .ready) :
    Timed y := by
  -- A connection that is of use at the end was so all the time.
  induction reached with
  | refl => exact timed
  | tail _ step ih => exact (ih (step.lasts.ready ready)).next step ready

/-- No run changes the settings. -/
theorem reach_settings (reached : Reach x y) : y.connection.settings = x.connection.settings := by
  -- By induction on the run, each step keeping them.
  induction reached with
  | refl => rfl
  | tail _ step ih => exact step.lasts.settings.trans ih

/-- Over a usable connection as long is waited for a reply as the settings say, whatever streams
there were before and whoever asks for a stop. As long is waited for the end of a stream for which a
stop was written, but for the events of any other the settings have a limit of their own. A stop of
an earlier session does nothing. All that a client does is part of such a run. -/
theorem waitLimit_inForce {settings : Settings} {source : Source} {sink : Sink} {c : Connection}
    (greeted : (Connection.greet settings source sink).1 = .ok c) :
    (∀ x, Reach (start c) x →
      (x.connection.health = .ready → x.stage.awaitsReply = true →
        x.connection.waitLimit? = settings.replyLimit?) ∧
      (∀ stream point, x.stage = .following stream point → stream.state = .streaming →
        x.connection.waitLimit?
          = if x.stopped then settings.replyLimit? else settings.streamLimit?) ∧
      (x.connection.health = .ready → ∀ stream ∈ x.earlier,
        Session.requestStop ⟨x.connection, stream⟩ = (.ok (), ⟨x.connection, stream⟩))) ∧
    ∀ acts, ∃ x, At (start c) ((Usage.commands c).run acts) x := by
  obtain ⟨tuned, limit⟩ := Connection.greet_limit greeted
  have timed : Timed (start c) := ⟨.commands (tuned ▸ limit), nofun⟩
  have inStep : InStep (start c) := ⟨nofun, nofun⟩
  have atCommands : At (start c) (.commands c) (start c) := ⟨.refl, rfl, rfl⟩
  refine ⟨fun x reached => ?_, atCommands.run⟩
  -- All limits are those of the settings that the connection began with.
  have kept : x.connection.settings = settings := (reach_settings reached).trans tuned
  refine ⟨fun ready awaits => ?_, fun stream point following streams => ?_,
    fun ready stream held => ?_⟩
  · rw [← kept]
    exact (timed.reach reached ready).inForce.reply awaits
  · -- A stream that goes on does so over a usable connection.
    have ready : x.connection.health = .ready := Connection.isUsable_iff.mp
      ((inStep.reach reached).stream stream (by rw [following]; rfl) streams)
    have inForce := (timed.reach reached ready).inForce
    rw [following] at inForce
    rw [← kept]
    exact inForce.streams streams
  · exact (timed.reach reached ready).requestStop_earlier held

/-- A daemon that greets and lets a file be followed. -/
def followed : Source :=
  ⟨[.bytes [65, 77, 73, 71, 65, 67, 84, 76, 32, 49, 46, 48, 46, 48, 10, 79, 75, 32, 51, 10]
        (by decide)], .silent⟩

/-- The connection to a daemon that lets a file be followed, after the greeting. -/
def greetedByFollowed : Connection where
  reader := ⟨[79, 75, 32, 51, 10], ⟨[], .silent⟩, .latin1⟩
  sink := .accepting
  settings := .usual
  health := .ready
  waitLimit? := Settings.usual.replyLimit?
  banner := "AMIGACTL 1.0.0".toList
  version := ⟨1, 0, 0⟩

/-- A file is followed for ever, until somebody asks for a stop: half a minute for the end. -/
theorem waitLimit_inForce_stopped :
    (Connection.greet .usual followed .accepting).1 = .ok greetedByFollowed ∧
    ∃ x y, Reach (start greetedByFollowed) x ∧ Next x y ∧
      y.connection.sink.taken = x.connection.sink.taken ++ stopLine ∧
      x.connection.waitLimit? = none ∧ y.connection.waitLimit? = some 30 := by
  have greeted : (Connection.greet .usual followed .accepting).1 = .ok greetedByFollowed := rfl
  -- The run opens one session and has a stop that is written while it goes on.
  obtain ⟨x, stream, reached, following, streams, unstopped, writes, goesOn⟩ : ∃ x stream,
      Reach (start greetedByFollowed) x ∧ x.stage = .following stream .idle ∧
        stream.state = .streaming ∧ x.stopped = false ∧
        Session.writesStop ⟨x.connection, stream⟩ = true ∧
        (Session.requestStop ⟨x.connection, stream⟩).2.stream.state = .streaming :=
    ⟨_, _, (Relation.ReflTransGen.single (@Next.ask _ (.tail ['x']) _ rfl rfl)).tail
      (.opened rfl rfl), rfl, rfl, rfl, rfl, rfl⟩
  have stop := @Next.stopElsewhere x stream (by rw [following]; rfl)
  -- The limit is asked for before the stop and after it.
  obtain ⟨_, before, _⟩ := (waitLimit_inForce greeted).1 x reached
  obtain ⟨_, after, _⟩ := (waitLimit_inForce greeted).1 _ (reached.tail stop)
  refine ⟨greeted, x, _, reached, stop, Session.writesStop_taken writes, ?_, ?_⟩
  · rw [before stream .idle following streams, unstopped]
    rfl
  · dsimp only at after
    rw [following, writes, Bool.or_true] at after
    exact after _ .idle rfl goesOn

end Shared
end AmigaRemote
