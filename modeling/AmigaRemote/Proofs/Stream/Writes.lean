import AmigaRemote.Proofs.Client.Alignment
import AmigaRemote.Proofs.Client.Writes
import AmigaRemote.Proofs.Stream.WaitLimit

/-! What goes over a connection in its whole life, whoever writes it. A write that fails is the last
one, unless it was a stop from outside of a session, or one from within that others repeat. -/

namespace AmigaRemote

/-- What may be written after a write. -/
def Write.Allows (first later : Write) : Prop :=
  first.Failed → first.writer = .elsewhere ∨ first.writer = .session ∧ later.writer = .elsewhere

/-- A thread that does not go back to commands writes nothing. -/
theorem Session.advance_sink (s : Session) {point : Point}
    (staying : ∀ event, point ≠ .leaving event) :
    (s.advance point).2.connection.sink = s.connection.sink := by
  -- A thread that waits or looks at a chunk reads at most.
  cases point with
  | idle =>
    simp only [advance]
    split <;> rfl
  | took taken =>
    rcases taken with e | body | _ | e
    · exact Connection.guard_sink (α := StreamEvent) (.error e) s.connection
    · rfl
    · rfl
    · rfl
  | leaving event => exact absurd rfl (staying event)

/-- To stop is to write once. -/
theorem Sink.stop_writes (s : Sink) (encoding : Encoding) (writer : Writer)
    (other : writer ≠ .client) :
    ∃ w : Write, w.writer = writer ∧ Written encoding writer w.bytes ∧
      s.Writes [w] (s.sendCommand encoding .stop).2 ∧
      (w.Failed → (s.sendCommand encoding .stop).1 ≠ .ok ()) := by
  rcases s.sendCommand_writes encoding writer .stop with
    ⟨e, early, refused⟩ | ⟨w, same, encoded, wrote, failed⟩
  · -- A stop has bytes in every encoding, so it is not refused for the want of them.
    rw [Session.stop_outage refused] at early
    cases early
  · exact ⟨w, same, .stop other encoded, wrote, failed⟩

namespace Shared

variable {x y : Shared} {writes later : List Write}

/-- A connection over which nobody will write. -/
structure Silent (x : Shared) : Prop where
  commands : x.stage = .commands
  unready : x.connection.health ≠ .ready
  unarmed : ∀ stream ∈ x.earlier, stream.phase ≠ .armed

/-- Nothing happens any more where nobody will write. -/
theorem Silent.next (silent : Silent x) (step : Next x y) : y = x := by
  -- Nothing can be sent over the connection, and no handle is armed.
  obtain ⟨commands, unready, unarmed⟩ := silent
  have unusable : x.connection.isUsable = false := by simpa [Connection.isUsable] using unready
  cases step with
  | operate => rw [Operation.perform_unusable _ unusable]
  | ask _ sent =>
    rw [Connection.send_inert _ _ unusable] at sent
    cases sent
  | unasked _ failed =>
    rw [Connection.send_inert _ _ unusable] at failed
    cases failed
    rfl
  | @stopEarlier stream front behind held =>
    have off := unarmed stream (by simp [held])
    rw [@Session.requestStop_unarmed ⟨x.connection, stream⟩ off]
    simp only [← held]
  -- Every other step belongs to another stage.
  | opened other | refused other | unheard other | dismissed other | advance other | leave other
  | answered other | unanswered other | stop other | stopElsewhere other | giveUp other =>
    rw [commands] at other
    cases other

/-- What one step writes. -/
structure Adds (x y : Shared) (writes : List Write) : Prop where
  sink : x.connection.sink.Writes writes y.connection.sink
  written : ∀ w ∈ writes, Written x.connection.settings.encoding w.writer w.bytes
  order : writes.Pairwise fun first _ => ¬first.Failed
  /-- Over a connection of no use only stops from outside are written. -/
  ready : ∀ w ∈ writes, w.writer ≠ .elsewhere → x.connection.health = .ready
  spent : ∀ w ∈ writes, w.Failed → w.writer ≠ .elsewhere → y.connection.health ≠ .ready
  silent : ∀ w ∈ writes, w.Failed → w.writer = .client → Silent y

/-- Where nothing is written nothing is added. -/
theorem Adds.none (sink : x.connection.sink.Writes [] y.connection.sink) : Adds x y [] where
  -- There is no write for the conditions to speak of.
  sink := sink
  written := List.forall_mem_nil _
  order := .nil
  ready := List.forall_mem_nil _
  spent := List.forall_mem_nil _
  silent := List.forall_mem_nil _

/-- Where the sink is left alone nothing is added. -/
theorem Adds.nothing (sink : y.connection.sink = x.connection.sink) : Adds x y [] :=
  -- The sink has had the empty sequence of writes.
  .none (sink ▸ .nothing _)

/-- A client writes over a connection of use and with nobody left who could stop an earlier session.
If that fails it stays among commands. -/
theorem Adds.client (ready : x.connection.health = .ready) (timed : Timed x)
    (wrote : Connection.Wrote x.connection y.connection writes) (earlier : y.earlier = x.earlier)
    (commands : y.connection.health ≠ .ready → y.stage = .commands) : Adds x y writes := by
  -- A write that failed has broken the connection.
  have unready (w : Write) (member : w ∈ writes) (failed : w.Failed) :
      y.connection.health ≠ .ready := by
    simpa [Connection.isUsable] using wrote.spent w member failed
  refine ⟨wrote.sink, fun w member => ?_, wrote.order, fun _ _ _ => ready,
    fun w member failed _ => unready w member failed, fun w member failed _ => ?_⟩
  · rw [wrote.client w member]
    exact wrote.written w member
  · have spent := unready w member failed
    exact ⟨commands spent, spent, earlier ▸ timed.unarmed⟩

/-- What a client does in order adds some writes, or does nothing over a connection of no use. -/
theorem client_adds {α : Type} {act : Client α} (orderly : Connection.Orderly act)
    (inert : x.connection.isUsable = false → (act x.connection).2 = x.connection)
    (timed : x.connection.health = .ready → Timed x)
    (same : y.connection = (act x.connection).2) (earlier : y.earlier = x.earlier)
    (commands : y.connection.health ≠ .ready → y.stage = .commands) :
    ∃ writes, Adds x y writes := by
  -- Over a connection of use the act writes in order, over any other it does nothing.
  by_cases usable : x.connection.isUsable = true
  · have ready := Connection.isUsable_iff.mp usable
    obtain ⟨writes, wrote⟩ := orderly x.connection usable
    exact ⟨writes, .client ready (timed ready) (same ▸ wrote) earlier commands⟩
  · exact ⟨[], .nothing (by rw [same, inert (by simpa using usable)])⟩

/-- A stop from outside is written once, or there is nothing to be done. -/
theorem requestStop_adds {stream : Stream}
    (sink : y.connection.sink = (Session.requestStop ⟨x.connection, stream⟩).2.connection.sink) :
    ∃ writes, Adds x y writes := by
  have requested := Session.requestStop_requested ⟨x.connection, stream⟩
  obtain ⟨w, writer, written, wrote, _⟩ :=
    x.connection.sink.stop_writes x.connection.settings.encoding .elsewhere nofun
  -- Whether it succeeds or not, a stop that is tried is one write.
  have tried (same : y.connection.sink
      = (x.connection.sink.sendCommand x.connection.settings.encoding .stop).2) :
      ∃ writes, Adds x y writes := by
    refine ⟨[w], same ▸ wrote, ?_, List.pairwise_singleton _ _, ?_, ?_, ?_⟩
    · simpa [writer] using written
    · simp [writer]
    · simp [writer]
    · simp [writer]
  generalize Session.requestStop ⟨x.connection, stream⟩ = outcome at requested sink
  cases requested with
  | unarmed => exact ⟨[], .nothing sink⟩
  | written _ attempt => exact tried (by rw [sink, attempt]; rfl)
  | refused _ attempt => exact tried (by rw [sink, attempt]; rfl)

/-- A stop from within is written once and breaks the connection if it cannot be, or there is
nothing to be done. -/
theorem stop_adds {stream : Stream} (ready : x.connection.health = .ready)
    (connection : y.connection = (Session.stop ⟨x.connection, stream⟩).2.connection) :
    ∃ writes, Adds x y writes := by
  -- The stop is at most one write, whichever way it goes.
  have stops := Session.stop_stops ⟨x.connection, stream⟩
  obtain ⟨w, writer, written, wrote, failed⟩ :=
    x.connection.sink.stop_writes x.connection.settings.encoding .session nofun
  -- If it is written, its failure is told by the session, which then breaks.
  have tried (same : y.connection.sink
        = (x.connection.sink.sendCommand x.connection.settings.encoding .stop).2)
      (spent : w.Failed → y.connection.health ≠ .ready) : ∃ writes, Adds x y writes := by
    refine ⟨[w], same ▸ wrote, ?_, List.pairwise_singleton _ _, fun _ _ _ => ready, ?_, ?_⟩
    · simpa [writer] using written
    · simpa [writer] using spent
    · simp [writer]
  generalize Session.stop ⟨x.connection, stream⟩ = outcome at stops connection
  cases stops with
  | isOver => exact ⟨[], .nothing (by rw [connection])⟩
  | unarmed => exact ⟨[], .nothing (by rw [connection])⟩
  | written _ _ attempt =>
    refine tried (by rw [connection, attempt]; rfl) fun broke => ?_
    exact absurd (by rw [attempt]) (failed broke)
  | refused _ _ attempt =>
    refine tried (by rw [connection, attempt]; rfl) fun _ => ?_
    rw [connection]
    nofun

/-- Every step adds some writes, or none. -/
theorem Next.adds (inStep : InStep x) (timed : x.connection.health = .ready → Timed x)
    (step : Next x y) : ∃ writes, Adds x y writes := by
  -- What is read for does not write.
  have received {α : Type} (reading : Reading α) :
      (Connection.receive reading x.connection).2.sink = x.connection.sink :=
    Connection.guard_sink _ _
  have heard {α : Type} {reading : Reading α} {result : Except ClientError α} {c : Connection}
      (heard : Connection.receive reading x.connection = (result, c)) :
      c.sink = x.connection.sink := by
    have same := received reading
    rwa [heard] at same
  have sent (command : Command) (unusable : x.connection.isUsable = false) :
      (Connection.send command x.connection).2 = x.connection := by
    rw [Connection.send_inert command _ unusable]
  cases step with
  | operate commands single =>
    exact client_adds (Operation.perform_orderly single) (Operation.perform_unusable _) timed rfl
      rfl fun _ => commands
  | @ask request c commands asked =>
    -- A stream that was asked for is waited for over a connection of use.
    have ready := (inStep.next (.ask commands asked)).opening request rfl
    exact client_adds (Connection.send_orderly _) (sent _) timed (by rw [asked]) rfl
      fun unready => absurd ready unready
  | unasked commands failed =>
    exact client_adds (Connection.send_orderly _) (sent _) timed (by rw [failed]) rfl
      fun _ => commands
  | @opened _ _ c _ answer => exact ⟨[], .nothing (heard (c := c) answer)⟩
  | refused _ answer => exact ⟨[], .nothing (heard answer)⟩
  | unheard _ failed => exact ⟨[], .nothing (heard failed)⟩
  | dismissed => exact ⟨[], .nothing (received _)⟩
  | @advance stream _ _ staying =>
    exact ⟨[], .nothing (Session.advance_sink ⟨x.connection, stream⟩ staying)⟩
  | leave => exact ⟨[], .nothing rfl⟩
  | answered _ answer => exact ⟨[], .nothing (heard answer)⟩
  | unanswered _ failed => exact ⟨[], .nothing (heard failed)⟩
  | @stop stream following goesOn =>
    have usable := inStep.stream stream (by rw [following]; rfl) goesOn
    exact stop_adds (Connection.isUsable_iff.mp usable) rfl
  | stopElsewhere => exact requestStop_adds rfl
  | stopEarlier => exact requestStop_adds rfl
  | giveUp => exact ⟨[], .nothing rfl⟩

/-- A connection with all that was written over it. -/
structure Tracked (x : Shared) (writes : List Write) : Prop where
  inStep : InStep x
  timed : x.connection.health = .ready → Timed x
  written : ∀ w ∈ writes, Written x.connection.settings.encoding w.writer w.bytes
  order : writes.Pairwise Write.Allows
  spent : ∀ w ∈ writes, w.Failed → w.writer ≠ .elsewhere → x.connection.health ≠ .ready
  silent : ∀ w ∈ writes, w.Failed → w.writer = .client → Silent x

/-- What is added by a step comes behind what was written before it. -/
theorem Tracked.adds (tracked : Tracked x writes) (adds : Adds x y later) (inStep : InStep y)
    (timed : y.connection.health = .ready → Timed y)
    (lasts : Connection.Lasts x.connection y.connection)
    (silent : Silent x → Silent y ∧ later = []) : Tracked y (writes ++ later) := by
  refine ⟨inStep, timed, ?_, ?_, ?_, ?_⟩
  · rw [lasts.settings]
    exact List.forall_mem_append.mpr ⟨tracked.written, adds.written⟩
  · refine List.pairwise_append.mpr ⟨tracked.order,
      adds.order.imp fun intact failed => absurd failed intact,
      fun first before v after failed => ?_⟩
    -- What may follow a write that failed depends on whose it was.
    cases writer : first.writer with
    | elsewhere => exact .inl rfl
    | session =>
      refine .inr ⟨rfl, by_contra fun other => ?_⟩
      exact tracked.spent first before failed (by rw [writer]; nofun) (adds.ready v after other)
    | client =>
      rw [(silent (tracked.silent first before failed writer)).2] at after
      cases after
  · exact List.forall_mem_append.mpr
      ⟨fun w member failed other ready => tracked.spent w member failed other (lasts.ready ready),
        adds.spent⟩
  · exact List.forall_mem_append.mpr
      ⟨fun w member failed client => (silent (tracked.silent w member failed client)).1,
        adds.silent⟩

/-- Every step leaves all that was written in order. -/
theorem Tracked.next (tracked : Tracked x writes) (step : Next x y) :
    ∃ later, x.connection.sink.Writes later y.connection.sink ∧ Tracked y (writes ++ later) := by
  -- A silent connection steps nowhere; otherwise the step adds its own writes.
  by_cases silent : Silent x
  · obtain rfl := silent.next step
    exact ⟨[], .nothing _, by simpa using tracked⟩
  · obtain ⟨later, adds⟩ := step.adds tracked.inStep tracked.timed
    have timed (ready : y.connection.health = .ready) : Timed y :=
      (tracked.timed (step.lasts.ready ready)).next step ready
    exact ⟨later, adds.sink, tracked.adds adds (tracked.inStep.next step) timed step.lasts
      fun silent' => absurd silent' silent⟩

/-- Every run leaves all that was written in order. -/
theorem Tracked.reach (tracked : Tracked x writes) (reached : Reach x y) :
    ∃ later, x.connection.sink.Writes later y.connection.sink ∧ Tracked y (writes ++ later) := by
  -- By induction on the run, the writes of each step behind those before.
  induction reached with
  | refl => exact ⟨[], .nothing _, by simpa using tracked⟩
  | tail _ step ih =>
    obtain ⟨middle, first, tracked⟩ := ih
    obtain ⟨last, second, tracked⟩ := tracked.next step
    exact ⟨middle ++ last, first.append second, by simpa using tracked⟩

/-- A connection after its last use. -/
def closed (x : Shared) : Shared :=
  { x with connection := x.connection.release }

/-- The last use of a connection leaves all that was written in order. -/
theorem Tracked.closed (tracked : Tracked x writes) (commands : x.stage = .commands) :
    ∃ later, x.connection.sink.Writes later x.closed.connection.sink ∧
      Tracked x.closed (writes ++ later) := by
  -- The goodbye is the last write, and there is none if the connection was of no use.
  obtain ⟨later, wrote, unused⟩ := Connection.release_wrote x.connection
  have shut : x.closed.connection.health ≠ .ready := by
    rw [show x.closed.connection.health = .closed from Connection.release_health _]
    nofun
  have adds : Adds x x.closed later := by
    by_cases ready : x.connection.health = .ready
    · exact .client ready (tracked.timed ready) wrote rfl fun _ => commands
    · obtain rfl := unused (by simpa [Connection.isUsable] using ready)
      exact .none wrote.sink
  refine ⟨later, wrote.sink, tracked.adds adds (.of_commands commands)
    (fun ready => absurd ready shut) ⟨wrote.settings, fun ready => absurd ready shut⟩
    fun silent => ⟨⟨commands, shut, silent.unarmed⟩, ?_⟩⟩
  exact unused (by simpa [Connection.isUsable] using silent.unready)

/-- All that can come about in the life of a connection. It is used, and after its last use, which
comes between streams, sessions may still be asked to stop. -/
inductive Lives (c : Connection) (x : Shared) : Prop where
  | inUse (reached : Reach (start c) x)
  | closed {last : Shared} (reached : Reach (start c) last) (commands : last.stage = .commands)
    (later : Reach last.closed x)

/-- In the whole life of a connection all that is written is in order. -/
theorem Lives.tracked {c : Connection} (lives : Lives c x) (timed : Timed (start c)) :
    ∃ writes, c.sink.Writes writes x.connection.sink ∧
      x.connection.settings = c.settings ∧ Tracked x writes := by
  have fresh : Tracked (start c) [] := ⟨.of_commands rfl, fun _ => timed, List.forall_mem_nil _,
    .nil, List.forall_mem_nil _, List.forall_mem_nil _⟩
  -- The connection is still in use, or it was closed and may be tried later all the same.
  cases lives with
  | inUse reached =>
    obtain ⟨writes, wrote, tracked⟩ := fresh.reach reached
    exact ⟨writes, wrote, reach_settings reached, tracked⟩
  | @closed last reached commands later =>
    obtain ⟨before, wrote, tracked⟩ := fresh.reach reached
    obtain ⟨farewell, parted, tracked⟩ := tracked.closed commands
    obtain ⟨after, wrote', tracked⟩ := tracked.reach later
    obtain ⟨_, released, _⟩ := Connection.release_wrote last.connection
    exact ⟨_, (wrote.append parted).append wrote',
      ((reach_settings later).trans released.settings).trans (reach_settings reached), tracked⟩

/-- In the whole life of a connection what is taken is taken from whole commands, the data of
uploads and stops, one after the other, and each that is not cut short is taken whole. After one that
failed nothing more is written, unless it was a stop from outside of a session, or one from within
that is repeated from outside. Hence as long as every stop can be written only the very last may be
cut. All that a client does is part of such a life. -/
theorem lives_written {settings : Settings} {source : Source} {sink : Sink} {reader : Reader}
    {c : Connection} (greeted : Connection.greet settings source sink = (.ok c, reader)) :
    (∀ x, Lives c x → ∃ writes : List Write,
      sink.Writes writes x.connection.sink ∧
      x.connection.sink.taken = sink.taken ++ writes.flatMap Write.taken ∧
      (∀ w ∈ writes, Written settings.encoding w.writer w.bytes) ∧
      (∀ front w behind, writes = front ++ w :: behind → w.Failed →
        behind = [] ∨ w.writer = .elsewhere ∨
          w.writer = .session ∧ ∀ v ∈ behind, v.writer = .elsewhere) ∧
      ((∀ w ∈ writes, w.Failed → w.writer = .client) → ∀ front last, writes = front ++ [last] →
        x.connection.sink.taken = sink.taken ++ front.flatMap Write.bytes ++ last.taken)) ∧
    ∀ acts, ∃ x, At (start c) ((Usage.commands c).run acts) x := by
  obtain ⟨tuned, limit⟩ := Connection.greet_limit (congrArg Prod.fst greeted)
  obtain ⟨rfl, -⟩ := Connection.greet_ok greeted
  have timed : Timed (start c) := ⟨.commands (tuned ▸ limit), nofun⟩
  have atCommands : At (start c) (.commands c) (start c) := ⟨.refl, rfl, rfl⟩
  refine ⟨fun x lives => ?_, atCommands.run⟩
  obtain ⟨writes, wrote, same, tracked⟩ := lives.tracked timed
  have written := tracked.written
  rw [same, tuned] at written
  have cuts (front : List Write) (w : Write) (behind : List Write)
      (split : writes = front ++ w :: behind) (failed : w.Failed) :
      behind = [] ∨ w.writer = .elsewhere ∨
        w.writer = .session ∧ ∀ v ∈ behind, v.writer = .elsewhere := by
    have order := tracked.order
    rw [split] at order
    have allows := (List.pairwise_cons.mp (List.pairwise_append.mp order).2.1).1
    cases writer : w.writer with
    | elsewhere => exact .inr (.inl rfl)
    | session =>
      refine .inr (.inr ⟨rfl, fun v member => ?_⟩)
      simpa [writer] using allows v member failed
    | client =>
      refine .inl (List.eq_nil_iff_forall_not_mem.mpr fun v member => ?_)
      simpa [writer] using allows v member failed
  refine ⟨writes, wrote, wrote.all_taken, written, cuts, fun clients front last split => ?_⟩
  -- Whatever stands before the last was followed by something, so it was taken whole.
  have whole : front.flatMap Write.taken = front.flatMap Write.bytes := by
    refine congrArg List.flatten (List.map_congr_left fun w member => ?_)
    refine w.whole (by_contra fun failed => ?_)
    obtain ⟨before, between, rfl⟩ := List.append_of_mem member
    have client := clients w (by simp [split]) failed
    rcases cuts before w (between ++ [last]) (by simp [split]) failed with none | other | ⟨other, _⟩
    · simp at none
    · rw [client] at other
      cases other
    · rw [client] at other
      cases other
  rw [wrote.all_taken, split, List.flatMap_append, whole]
  simp

/-- A daemon that greets, and ends the stream that it is asked for at once. -/
def ending : Source :=
  ⟨[.bytes [65, 77, 73, 71, 65, 67, 84, 76, 32, 49, 46, 48, 46, 48, 10, 79, 75, 10, 69, 78, 68, 10,
        46, 10] (by decide)], .silent⟩

/-- A transport that is full for a moment, after a command and two bytes more. -/
def jammed : Sink :=
  ⟨[.upTo UInt64.size, .upTo 2, .fault (.system .wouldBlock)], .upTo UInt64.size, none, []⟩

/-- The connection over such a transport, after the greeting. -/
def greetedByEnding : Connection where
  reader := ⟨[79, 75, 10, 69, 78, 68, 10, 46, 10], ⟨[], .silent⟩, .latin1⟩
  sink := jammed
  settings := .usual
  health := .ready
  waitLimit? := Settings.usual.replyLimit?
  banner := "AMIGACTL 1.0.0".toList
  version := ⟨1, 0, 0⟩

/-- A session over such a connection. -/
def jammedSession : Session where
  connection := { greetedByEnding with
    reader := ⟨[69, 78, 68, 10, 46, 10], ⟨[], .silent⟩, .latin1⟩
    sink := { jammed with
      script := jammed.script.drop 1, taken := [84, 65, 73, 76, 32, 120, 10] }
    waitLimit? := Settings.usual.streamLimit? }
  stream := ⟨.tail, [], .streaming, .armed, false, none⟩

/-- The connection once the session that is open was asked from outside to stop. -/
def askedElsewhere (x : Shared) (stream : Stream) : Shared :=
  { x with
    connection := (Session.requestStop ⟨x.connection, stream⟩).2.connection
    stage := x.stage.withStream (Session.requestStop ⟨x.connection, stream⟩).2.stream
    stopped := x.stopped || Session.writesStop ⟨x.connection, stream⟩ }

/-- A stop from outside is cut short there. The stream ends all the same, and the next command goes
out right behind what was taken of the stop. -/
theorem jammed_reach : ∃ x stream e z, Reach (start greetedByEnding) x ∧
    x.stage.stream? = some stream ∧
    (Session.requestStop ⟨x.connection, stream⟩).1 = .error e ∧
    Reach (x.askedElsewhere stream) z ∧
    (x.askedElsewhere stream).connection.sink.taken = [84, 65, 73, 76, 32, 120, 10, 83, 84] ∧
    z.connection.sink.taken
      = [84, 65, 73, 76, 32, 120, 10, 83, 84, 84, 65, 73, 76, 32, 120, 10] := by
  have fresh : At (start greetedByEnding) (.commands greetedByEnding) (start greetedByEnding) :=
    ⟨.refl, rfl, rfl⟩
  have opened : (Usage.commands greetedByEnding).run [.operate (.openStream (.tail ['x']))]
      = .streaming jammedSession := rfl
  -- One request opens the stream, and the run of the client is one of the shared connection.
  obtain ⟨⟨connection, stage, earlier, stopped⟩, at_⟩ :=
    fresh.run [.operate (.openStream (.tail ['x']))]
  rw [opened] at at_
  obtain ⟨reached, same, following⟩ := at_
  cases same
  cases following
  let x : Shared :=
    ⟨jammedSession.connection, .following jammedSession.stream .idle, earlier, stopped⟩
  have cut : At (x.askedElsewhere jammedSession.stream)
      (.streaming jammedSession.stopElsewhere.2) (x.askedElsewhere jammedSession.stream) :=
    ⟨.refl, rfl, rfl⟩
  -- The stream is read to its end, the session given up, and a command sent.
  let acts : List Act := [.nextEvent, .giveUp, .operate (.openStream (.tail ['x']))]
  have taken : ((Usage.streaming jammedSession.stopElsewhere.2).run acts).connection.sink.taken
      = [84, 65, 73, 76, 32, 120, 10, 83, 84, 84, 65, 73, 76, 32, 120, 10] := rfl
  obtain ⟨z, at_⟩ := cut.run acts
  rw [← at_.connection] at taken
  have ran : Reach (x.askedElsewhere jammedSession.stream) z := at_.1
  exact ⟨x, _, _, z, reached, rfl, rfl, ran, rfl, taken⟩

/-- Not every write that fails is the last one: a stop from outside is not. -/
theorem not_written_last : ¬∀ {settings : Settings} {source : Source} {sink : Sink}
    {reader : Reader} {c : Connection},
    Connection.greet settings source sink = (.ok c, reader) →
      ∀ x stream e, Reach (start c) x → x.stage.stream? = some stream →
        (Session.requestStop ⟨x.connection, stream⟩).1 = .error e →
        ∀ z, Reach (x.askedElsewhere stream) z →
          z.connection.sink.taken = (x.askedElsewhere stream).connection.sink.taken := by
  intro last
  have greeted : Connection.greet .usual ending jammed
      = (.ok greetedByEnding, greetedByEnding.reader) := rfl
  -- The run with the cut stop is the counterexample: more was taken behind it.
  obtain ⟨x, stream, e, z, reached, open_, failed, more, before, after⟩ := jammed_reach
  have same := last greeted x stream e reached open_ failed z more
  rw [before, after] at same
  exact absurd same (by decide)

/-- What is taken where a stop is cut short is taken from whole commands and stops all the same, and
only a stop can have failed with something behind it. -/
theorem lives_written_jammed :
    Connection.greet .usual ending jammed = (.ok greetedByEnding, greetedByEnding.reader) ∧
    ∃ z, Reach (start greetedByEnding) z ∧ ∃ writes : List Write,
      [84, 65, 73, 76, 32, 120, 10, 83, 84, 84, 65, 73, 76, 32, 120, 10]
        = writes.flatMap Write.taken ∧
      (∀ w ∈ writes, Written .latin1 w.writer w.bytes) ∧
      ∀ front w behind, writes = front ++ w :: behind → w.Failed → behind ≠ [] →
        w.writer ≠ .client := by
  have greeted : Connection.greet .usual ending jammed
      = (.ok greetedByEnding, greetedByEnding.reader) := rfl
  -- The same run is a whole life, of which the theorem lists the writes.
  obtain ⟨x, stream, e, z, reached, open_, failed, more, before, after⟩ := jammed_reach
  have asked : Reach x (x.askedElsewhere stream) := .single (.stopElsewhere open_)
  have whole := (reached.trans asked).trans more
  obtain ⟨writes, _, taken, written, cuts, _⟩ := (lives_written greeted).1 z (.inUse whole)
  rw [after] at taken
  refine ⟨greeted, z, whole, writes, taken, written, fun front w behind split failed more => ?_⟩
  -- The failed write has something behind it, so that it was a stop.
  rcases cuts front w behind split failed with none | elsewhere | ⟨session, _⟩
  · exact absurd none more
  · rw [elsewhere]
    nofun
  · rw [session]
    nofun

end Shared
end AmigaRemote
