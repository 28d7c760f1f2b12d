import AmigaRemote.Proofs.Client.Exchange
import AmigaRemote.Proofs.Stream.Health

/-! Runs of a client from its first command to its farewell. Once its connection is of no use it
stays so, and nothing goes over it any more. -/

namespace AmigaRemote

/-- A client in use: it gives commands, or follows a stream. -/
inductive Usage where
  | commands (c : Connection)
  | streaming (s : Session)

/-- What can happen to a client in use. -/
inductive Act where
  | operate (op : Operation)
  | nextEvent
  | stop
  | cancel
  /-- A stop from outside of the session. -/
  | stopElsewhere
  /-- The last use of the session. -/
  | giveUp
  deriving DecidableEq

namespace Usage

/-- The connection of a client. -/
def connection : Usage → Connection
  | commands c => c
  | streaming s => s.connection

/-- The client after something happened. -/
def step : Usage → Act → Usage
  | commands c, .operate (.openStream request) =>
    match Connection.openStream request c with
    | (.ok stream, c) => streaming ⟨c, stream⟩
    | (.error _, c) => commands c
  | commands c, .operate op => commands (op.perform c).2
  | streaming s, .nextEvent => streaming s.nextEvent.2
  | streaming s, .stop => streaming s.stop.2
  | streaming s, .cancel => streaming s.cancel.2
  | streaming s, .stopElsewhere => streaming s.stopElsewhere.2
  | streaming s, .giveUp => commands s.release.connection
  -- A stream has its connection for itself, and without a stream there is nothing to follow.
  | usage, _ => usage

/-- The client after all that happened to it. -/
def run (acts : List Act) (usage : Usage) : Usage :=
  acts.foldl step usage

/-- What an operation leaves of the connection is what the client goes on with. -/
theorem step_operate (op : Operation) (c : Connection) :
    ((commands c).step (.operate op)).connection = (op.perform c).2 := by
  -- Only a request for a stream does more than the operation itself.
  cases op with
  | openStream request =>
    simp only [step, Operation.perform]
    split
    all_goals
      rename_i opened
      rw [opened]
      rfl
  | _ => rfl

/-- A client whose stream goes on only over a usable connection. -/
def InStep : Usage → Prop
  | commands _ => True
  | streaming s => s.InStep

/-- A client stays in step. -/
theorem step_inStep {usage : Usage} (inStep : InStep usage) (act : Act) :
    InStep (usage.step act) := by
  cases usage with
  | commands c =>
    unfold step
    -- Without a stream there is nothing to be in step with.
    split
    all_goals try trivial
    rename_i request same
    cases same
    split
    · -- A stream begins only over a usable connection, and leaves it so.
      rename_i stream after opened
      by_cases usable : c.isUsable = true
      · have agrees := Connection.openStream_truthful request c usable
        rw [opened] at agrees
        exact fun _ => agrees
      · have nothing : Connection.openStream request c = (.error .closed, c) :=
          @Operation.perform_inert (.openStream request) nofun c (by simpa using usable)
        rw [nothing] at opened
        cases opened
    · trivial
  | streaming s =>
    cases act with
    | operate op => exact inStep
    | nextEvent => exact Session.nextEvent_inStep inStep
    | stop => exact Session.stop_inStep inStep
    | cancel => exact Session.cancel_inStep inStep
    | stopElsewhere => exact Session.stopElsewhere_inStep inStep
    | giveUp => trivial

/-- A client stays in step whatever happens to it. -/
theorem run_inStep {usage : Usage} (inStep : InStep usage) (acts : List Act) :
    InStep (usage.run acts) := by
  -- Each act leaves the client in step for the next.
  induction acts generalizing usage with
  | nil => exact inStep
  | cons act acts ih => exact ih (step_inStep inStep act)

/-- Over a connection that is of no use nothing happens any more, but that a stop may come from
outside of a session. Its connection is then of no use all the same. -/
theorem step_unusable {usage : Usage} (inStep : InStep usage)
    (unusable : usage.connection.isUsable = false) (act : Act) :
    (usage.step act).connection.isUsable = false ∧
      (act ≠ .stopElsewhere → (usage.step act).connection = usage.connection) := by
  -- That the connection stays as it is is more than that it stays of no use.
  suffices still : act ≠ .stopElsewhere → (usage.step act).connection = usage.connection by
    refine ⟨?_, still⟩
    by_cases elsewhere : act = .stopElsewhere
    · subst elsewhere
      cases usage with
      | commands c => exact unusable
      | streaming s =>
        -- A stop from outside may write, but takes no notice of the connection.
        have health := Session.requestStop_health s
        change (Session.requestStop s).2.connection.isUsable = false
        simp only [Connection.isUsable, health]
        exact unusable
    · rw [still elsewhere]
      exact unusable
  intro other
  cases usage with
  | commands c =>
    cases act with
    | operate op =>
      rw [step_operate]
      exact op.perform_unusable unusable
    | _ => rfl
  | streaming s =>
    -- The stream is over, so nothing is left to do with it.
    have isOver := Session.InStep.isOver inStep unusable
    cases act with
    | operate op => rfl
    | nextEvent => simp only [step, Session.nextEvent_over isOver]
    | stop => simp only [step, Session.stop_over isOver]
    | cancel => simp only [step, Session.cancel_over isOver]
    | stopElsewhere => exact absurd rfl other
    | giveUp => simp only [step, Session.release_unusable unusable, connection]

/-- A connection that is of no use stays so through a whole run, and unless stops come from outside
of sessions it stays as it is. -/
theorem run_unusable {usage : Usage} (inStep : InStep usage)
    (unusable : usage.connection.isUsable = false) (acts : List Act) :
    (usage.run acts).connection.isUsable = false ∧
      (.stopElsewhere ∉ acts → (usage.run acts).connection = usage.connection) := by
  -- Each act finds what the one before it left.
  induction acts generalizing usage with
  | nil => exact ⟨unusable, fun _ => rfl⟩
  | cons act acts ih =>
    obtain ⟨unusable', still⟩ := step_unusable inStep unusable act
    obtain ⟨last, same⟩ := ih (step_inStep inStep act) unusable'
    refine ⟨last, fun inside => ?_⟩
    simp only [List.mem_cons, not_or] at inside
    exact (same inside.2).trans (still (Ne.symm inside.1))

/-- What the calls of a session and the stops from outside keep holds up to its last use. -/
theorem run_keeps {property : Session → Prop} (events : Step.Keeps property Session.nextEvent)
    (stops : Step.Keeps property Session.stop)
    (elsewhere : Step.Keeps property Session.stopElsewhere) {acts : List Act}
    (inside : .giveUp ∉ acts) {s : Session} (holds : property s) :
    ∃ after, (streaming s).run acts = streaming after ∧ property after := by
  -- By induction on the acts; the last use is not among them.
  induction acts generalizing s with
  | nil => exact ⟨s, rfl, holds⟩
  | cons act acts ih =>
    rw [List.mem_cons, not_or] at inside
    cases act with
    | operate op => exact ih inside.2 holds
    | nextEvent => exact ih inside.2 (events holds)
    | stop => exact ih inside.2 (stops holds)
    | cancel => exact ih inside.2 (Session.cancel_keeps stops events holds)
    | stopElsewhere => exact ih inside.2 (elsewhere holds)
    | giveUp => exact absurd rfl inside.1

end Usage

namespace Connection

variable {c : Connection}

/-- The bytes with which a client takes its leave. -/
def farewell : Bytes :=
  Chunk.plainLine Command.quit.verb

/-- The farewell has bytes in every encoding. -/
theorem encode_quit (encoding : Encoding) : Command.quit.encode encoding = .ok farewell := by
  -- The line is plain text.
  cases encoding <;> rfl

/-- To hang up writes nothing. -/
theorem hangUp_taken (c : Connection) : (hangUp c).2.sink.taken = c.sink.taken := by
  -- A connection that is closed already is left as it is.
  unfold hangUp
  rw [Step.modify_apply]
  split <;> rfl

/-- The last use of a connection closes it. -/
theorem release_health (c : Connection) : (release c).health = .closed :=
  -- To release ends with hanging up, whatever went before.
  hangUp_health _

/-- A connection is released once only. -/
theorem release_release (c : Connection) : release (release c) = release c := by
  have closed := release_health c
  have notReady : (release c).health ≠ .ready := by
    rw [closed]
    nofun
  -- A closed connection is of no use, so no farewell is said a second time.
  unfold release at closed notReady ⊢
  rw [if_neg notReady]
  exact hangUp_closed closed

/-- Over a usable connection the last use is one farewell, as far as the transport takes it. -/
theorem release_usable (usable : c.isUsable = true) :
    ∃ part, part <+: farewell ∧ (release c).sink.taken = c.sink.taken ++ part ∧
      ((c.sink.send farewell).1 = .ok () → part = farewell) := by
  have written : (request .quit c).2.sink = (c.sink.transmit farewell).2 := by
    rw [request, Step.bind_still _ accept_still]
    refine (exchange_sink _ usable).trans ?_
    rw [Sink.sendCommand, encode_quit]
  obtain ⟨part, front, all, whole⟩ := Sink.send_took c.sink farewell
  refine ⟨part, front, ?_, whole⟩
  -- To hang up after the exchange writes nothing more.
  unfold release
  rw [if_pos (isUsable_iff.mp usable), hangUp_taken, written, Sink.transmit_sink, all]

/-- Over a connection that is of no use the last use neither writes nor reads. -/
theorem release_unusable (unusable : c.isUsable = false) :
    (release c).sink.taken = c.sink.taken ∧ (release c).reader = c.reader := by
  -- Without the right to say goodbye only the transport is closed.
  have notReady : c.health ≠ .ready := by simpa [isUsable] using unusable
  unfold release
  rw [if_neg notReady]
  exact ⟨hangUp_taken c, hangUp_reader c⟩

/-- A failure is fatal exactly if it leaves a usable connection unusable, and a success leaves it
ready unless it was a shutdown. Over a connection that is of no use nothing is sent and nothing
read, now or later. Hence the last use of a connection is a farewell exactly if it was ready, and
only once. -/
theorem fatal_iff_unusable :
    (∀ (op : Operation) (c : Connection), c.isUsable = true →
      match (op.perform c).1 with
      | .ok _ => (op.perform c).2.health = if op = .shutdown then .closed else .ready
      | .error e => e.isFatal = !(op.perform c).2.isUsable) ∧
    (∀ s : Session, s.connection.isUsable = true →
      Agrees s.nextEvent.1 s.nextEvent.2.connection ∧ Agrees s.stop.1 s.stop.2.connection ∧
        Agrees s.cancel.1 s.cancel.2.connection) ∧
    (∀ c : Connection, c.isUsable = false →
      (∀ op : Operation, (∀ command, op = .execute command → command.framing ≠ .stream) →
        op.perform c = (.error .closed, c)) ∧
      ∀ command : Command, command.framing = .stream →
        execute command c
          = (.error (.wire (.invalidArgument (.needsSession command.verb))), c)) ∧
    (∀ (c : Connection) (acts more : List Act),
      ((Usage.commands c).run acts).connection.isUsable = false →
        (((Usage.commands c).run acts).run more).connection.isUsable = false ∧
        (.stopElsewhere ∉ more →
          (((Usage.commands c).run acts).run more).connection
            = ((Usage.commands c).run acts).connection)) ∧
    ∀ c : Connection,
      (∃ part, part <+: farewell ∧ (release c).sink.taken = c.sink.taken ++ part ∧
        (c.isUsable = true → (c.sink.send farewell).1 = .ok () → part = farewell) ∧
        (c.isUsable = false → part = [] ∧ (release c).reader = c.reader)) ∧
      (release c).health = .closed ∧ release (release c) = release c := by
  refine ⟨fun op c usable => op.perform_agrees usable, fun s usable => ⟨?_, ?_, ?_⟩,
    fun c unusable => ⟨fun op single => Operation.perform_inert single c unusable,
      fun command opens => execute_stream opens c⟩,
    fun c acts more unusable => ?_, fun c => ⟨?_, release_health c, release_release c⟩⟩
  · exact Session.nextEvent_truthful s usable
  · exact Session.stop_truthful s usable
  · exact Session.cancel_truthful s usable
  · exact Usage.run_unusable (@Usage.run_inStep (.commands c) trivial acts) unusable more
  · -- A farewell is said over a usable connection and over no other.
    by_cases usable : c.isUsable = true
    · obtain ⟨part, front, all, whole⟩ := release_usable usable
      refine ⟨part, front, all, fun _ => whole, fun unusable => ?_⟩
      rw [usable] at unusable
      cases unusable
    · have unusable : c.isUsable = false := by simpa using usable
      obtain ⟨nothing, kept⟩ := release_unusable unusable
      exact ⟨[], List.nil_prefix, by simpa using nothing, fun usable' => absurd usable' usable,
        fun _ => ⟨rfl, kept⟩⟩

/-- Silence in reply to a ping is fatal, and the connection is of no use after it. -/
theorem fatal_iff_unusable_silence :
    ClientError.isFatal (.wire .timeout) = !(ping ⟨.ofSource ⟨[], .silent⟩ .latin1, .accepting,
      .usual, .ready, Settings.usual.replyLimit?, [], ⟨0, 1, 0⟩⟩).2.isUsable :=
  -- The witness is evaluated: nothing arrives, and the wait runs out.
  fatal_iff_unusable.1 .ping ⟨.ofSource ⟨[], .silent⟩ .latin1, .accepting, .usual, .ready,
    Settings.usual.replyLimit?, [], ⟨0, 1, 0⟩⟩ rfl

end Connection
end AmigaRemote
