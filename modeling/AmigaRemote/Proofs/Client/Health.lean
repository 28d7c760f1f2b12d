import AmigaRemote.Proofs.Client.Operation

/-! A failure is fatal exactly if it leaves the connection unusable, and an unusable connection
takes part in nothing any more. -/

namespace AmigaRemote

/-- Whether a failure of the wire is fatal to a client is decided as the guard decides it. -/
theorem ClientError.isFatal_wire (e : WireError) :
    (ClientError.wire e).isFatal = !e.beforeSending := by
  -- The two lists of harmless errors are compared one by one.
  cases e <;> rfl

/-- An outcome that tells whether the connection after it is of use: a success leaves it so, and a
failure exactly if it is not fatal. -/
def Agrees {α : Type} (outcome : Except ClientError α) (after : Connection) : Prop :=
  match outcome with
  | .ok _ => after.isUsable = true
  | .error e => e.isFatal = !after.isUsable

/-- What can be done with a usable connection, seen within a larger state, only with outcomes that
agree with it. -/
def Truthful {σ α : Type} (view : σ → Connection) (act : Step σ ClientError α) : Prop :=
  ∀ s, (view s).isUsable = true → Agrees (act s).1 (view (act s).2)

namespace Truthful

variable {σ α β : Type} {view : σ → Connection}

/-- What changes nothing and succeeds is truthful. -/
theorem pure (a : α) : Truthful view (Pure.pure a : Step σ ClientError α) :=
  -- A success promises that the connection is still of use, and it was before.
  fun _ usable => usable

/-- To give up for what is not fatal is truthful. -/
theorem throw {e : ClientError} (harmless : e.isFatal = false) :
    Truthful view (MonadExcept.throw e : Step σ ClientError α) := by
  -- The connection is left in use, so the error must not say otherwise.
  intro s usable
  change e.isFatal = !(view s).isUsable
  rw [harmless, usable]
  rfl

/-- A sequence is truthful if each of its parts is. -/
theorem bind {x : Step σ ClientError α} {next : α → Step σ ClientError β}
    (first : Truthful view x) (second : ∀ a, Truthful view (next a)) :
    Truthful view (x >>= next) := by
  intro s usable
  have agrees := first s usable
  rw [Step.bind_apply]
  -- Only after a success is there anything left to do, and then the connection is usable.
  rcases found : x s with ⟨_ | a, left⟩
  · rw [found] at agrees
    exact agrees
  · rw [found] at agrees
    exact second a left agrees

/-- To look at the state changes nothing. -/
theorem get : Truthful view (MonadState.get : Step σ ClientError σ) :=
  -- As for a value: nothing is touched.
  fun _ usable => usable

/-- A change that leaves the use of the connection alone is truthful. -/
theorem modify {change : σ → σ} (kept : ∀ s, (view (change s)).isUsable = (view s).isUsable) :
    Truthful view (modify change : Step σ ClientError PUnit) := by
  intro s usable
  change (view (change s)).isUsable = true
  -- To change the state never fails.
  rw [kept, usable]

end Truthful

namespace Connection

variable {α : Type}

/-- The guard breaks the connection exactly for what is fatal. -/
theorem guard_truthful (result : Except WireError α) : Truthful id (guard result) := by
  intro c usable
  cases result with
  | ok a => exact usable
  | error e =>
    by_cases early : e.beforeSending = true
    · -- Refused before anything was sent, so nothing is lost.
      simp only [guard, early, if_true]
      refine Truthful.throw ?_ c usable
      rw [ClientError.isFatal_wire, early]
      rfl
    · -- Anything else breaks the connection and is fatal.
      simp only [guard, early]
      change (ClientError.wire e).isFatal = !false
      simpa [ClientError.isFatal_wire] using early

/-- Whatever is read, the outcome tells the use of the connection. -/
theorem receive_truthful (reading : Reading α) : Truthful id (receive reading) :=
  -- The guard behind the reading breaks the connection exactly for what is fatal.
  fun c usable => guard_truthful (reading c.reader).1 { c with reader := _ } usable

/-- Whatever is written, the outcome tells the use of the connection. -/
theorem transmit_truthful (sending : Sink → Except WireError Unit × Sink) :
    Truthful id (transmit sending) :=
  -- As above, behind the writing.
  fun c usable => guard_truthful (sending c.sink).1 { c with sink := _ } usable

/-- Over a usable connection a command is written. -/
theorem send_usable {c : Connection} (command : Command) (usable : c.isUsable = true) :
    send command c = transmit (fun sink => sink.sendCommand c.settings.encoding command) c := by
  -- To be usable is to be ready, which is all that sending asks for.
  have ready : c.health = .ready := by simpa [isUsable] using usable
  simp [send, Step.bind_apply, ready]

/-- Whatever command is sent, the outcome tells the use of the connection. -/
theorem send_truthful (command : Command) : Truthful id (send command) := by
  -- Over a usable connection sending is writing.
  intro c usable
  change c.isUsable = true at usable
  rw [send_usable command usable]
  exact transmit_truthful _ c usable

/-- Whatever command is carried out, the outcome tells the use of the connection. -/
theorem execute_truthful (command : Command) : Truthful id (execute command) := by
  -- Framing decides which response is read. A stream is refused here, before anything is sent.
  unfold execute
  cases command.framing with
  | stream => exact guard_truthful _
  | lines => exact (send_truthful command).bind fun _ => receive_truthful _
  | chunked => exact (send_truthful command).bind fun _ => receive_truthful _

/-- An error that the daemon reports is not fatal. -/
theorem accept_truthful (response : Response) : Truthful id (accept response) := by
  unfold accept
  -- The daemon has answered to the end, so its error leaves the connection in step.
  split
  · exact .pure _
  · exact .throw rfl

/-- Whatever is requested, the outcome tells the use of the connection. -/
theorem request_truthful (command : Command) : Truthful id (request command) :=
  -- To judge a response gives up for errors of the daemon only, and these are not fatal.
  (execute_truthful command).bind accept_truthful

/-- A reply that cannot be understood is not fatal. -/
theorem understand_truthful (result : Except ReplyFault α) : Truthful id (understand result) := by
  -- What cannot be understood was read whole.
  cases result with
  | ok a => exact .pure a
  | error fault => exact .throw rfl

/-- A reply without a return code is not fatal. -/
theorem requireReturnCode_truthful (info : Text) : Truthful id (requireReturnCode info) := by
  unfold requireReturnCode
  -- What cannot be understood was read all the same.
  split
  · exact .pure _
  · exact .throw rfl

/-- How long to wait is of no concern to the use of a connection. -/
theorem setWaitLimit_truthful (limit? : Option UInt64) : Truthful id (setWaitLimit limit?) :=
  -- The limit is no part of what makes a connection usable.
  .modify fun _ => rfl

/-- A refused upload leaves the connection usable, and anything else is fatal. -/
theorem refuseUpload_truthful (line : Text) :
    Truthful id (refuseUpload line : Client α) := by
  unfold refuseUpload
  split
  · exact (receive_truthful _).bind fun _ => .throw rfl
  · -- Anything but an error breaks the connection, and says so.
    intro c _
    rfl

/-- An acknowledgement that is no number is not fatal. -/
theorem acknowledged_truthful (size : UInt64) (info : Text) :
    Truthful id (acknowledged size info) := by
  -- As above, the reply was read whole, whatever it says.
  unfold acknowledged
  split
  · exact .pure _
  · split
    · exact .pure _
    · exact .throw rfl

/-- Whatever becomes of an upload, the outcome tells the use of the connection. -/
theorem write_truthful (path : Text) (data : Bytes) : Truthful id (write path data) := by
  refine (send_truthful _).bind fun _ => (receive_truthful _).bind fun line => ?_
  -- The daemon has asked for the data or refused it.
  split
  · exact refuseUpload_truthful line
  · exact (transmit_truthful _).bind fun _ => (receive_truthful _).bind fun response =>
      (accept_truthful response).bind fun response => acknowledged_truthful _ _

/-- Whatever becomes of a request for a stream, the outcome tells the use of the connection. -/
theorem openStream_truthful (request : StreamRequest) : Truthful id (openStream request) := by
  refine (send_truthful _).bind fun _ => (receive_truthful _).bind fun (status, info) => ?_
  -- A refusal is read to its end, and a stream begins over a usable connection.
  cases status with
  | err => exact (receive_truthful _).bind fun _ => .throw rfl
  | ok => exact .bind .get fun _ => (setWaitLimit_truthful _).bind fun _ => .pure _

end Connection

/-- Every operation but a shutdown is truthful. -/
theorem Operation.perform_truthful {op : Operation} (other : op ≠ .shutdown) :
    Truthful id op.perform := by
  open Connection in
  cases op with
  | shutdown => exact absurd rfl other
  | version =>
    refine (request_truthful _).bind fun response => ?_
    split
    · exact .pure _
    · exact .throw rfl
  | dir path => exact (request_truthful _).bind fun _ => understand_truthful _
  | stat path => exact (request_truthful _).bind fun _ => understand_truthful _
  | read path =>
    refine (request_truthful _).bind fun response => ?_
    -- Only a size that was announced and differs is complained about.
    dsimp only
    split
    · split
      · exact .throw rfl
      · exact .pure _
    · exact .pure _
  | write path data => exact write_truthful path data
  | exec command =>
    exact (request_truthful _).bind fun _ => (requireReturnCode_truthful _).bind fun _ => .pure _
  | execAsync command =>
    refine (request_truthful _).bind fun response => ?_
    split
    · exact .pure _
    · exact .throw rfl
  | arexx host command =>
    exact (request_truthful _).bind fun _ => (requireReturnCode_truthful _).bind fun _ =>
      .bind .get fun _ => .pure _
  | traceStatus => exact (request_truthful _).bind fun _ => understand_truthful _
  | command line => exact request_truthful _
  | chunkedCommand line =>
    exact (send_truthful _).bind fun _ => (receive_truthful _).bind accept_truthful
  | execute command => exact execute_truthful command
  | openStream request => exact openStream_truthful request
  | ping => exact (request_truthful _).bind fun _ => .pure _
  | rename source target => exact (request_truthful _).bind fun _ => .pure _
  | traceStop => exact (request_truthful _).bind fun _ => .pure _
  | traceEnable names => exact (request_truthful _).bind fun _ => .pure _
  | traceDisable names => exact (request_truthful _).bind fun _ => .pure _

namespace Connection

/-- To hang up reads nothing. -/
theorem hangUp_reader (c : Connection) : (hangUp c).2.reader = c.reader := by
  -- Hanging up changes the health and shuts the sink.
  unfold hangUp
  rw [Step.modify_apply]
  split <;> rfl

/-- To hang up closes the connection. -/
theorem hangUp_health (c : Connection) : (hangUp c).2.health = .closed := by
  unfold hangUp
  rw [Step.modify_apply]
  -- A connection is closed already, or is closed now.
  split
  · assumption
  · rfl

/-- A closed connection is not closed again. -/
theorem hangUp_closed {c : Connection} (closed : c.health = .closed) : (hangUp c).2 = c := by
  -- The first thing that hanging up does is to look whether it was done before.
  unfold hangUp
  rw [Step.modify_apply]
  exact if_pos closed

/-- A connection is of use exactly if it is ready. -/
theorem isUsable_iff {c : Connection} : c.isUsable = true ↔ c.health = .ready := by
  -- This is the definition, said as a proposition.
  simp [isUsable]

end Connection

/-- The failures of every operation over a usable connection tell the use of the connection after
it. A success leaves it ready, except that a shutdown closes it. -/
theorem Operation.perform_agrees (op : Operation) {c : Connection} (usable : c.isUsable = true) :
    match (op.perform c).1 with
    | .ok _ => (op.perform c).2.health = if op = .shutdown then .closed else .ready
    | .error e => e.isFatal = !(op.perform c).2.isUsable := by
  -- Only a shutdown may succeed and leave nothing to be used.
  by_cases isShutdown : op = .shutdown
  · subst isShutdown
    have agrees := Connection.request_truthful .shutdown c usable
    simp only [perform, Connection.shutdown, Step.bind_apply, if_true]
    -- The connection is closed only if the daemon agreed to go.
    rcases found : Connection.request .shutdown c with ⟨_ | response, left⟩
    · rw [found] at agrees
      exact agrees
    · exact Connection.hangUp_health left
  · rw [if_neg isShutdown]
    have agrees := perform_truthful isShutdown c usable
    rcases found : op.perform c with ⟨_ | a, after⟩
    · rw [found] at agrees
      exact agrees
    · rw [found] at agrees
      exact Connection.isUsable_iff.mp agrees

/-- What does nothing over a connection that is of no use, and says so. -/
def Inert {α : Type} (client : Client α) : Prop :=
  ∀ c : Connection, c.isUsable = false → client c = (.error .closed, c)

/-- What begins by doing nothing does nothing. -/
theorem Inert.bind {α β : Type} {x : Client α} (first : Inert x) (next : α → Client β) :
    Inert (x >>= next) := by
  -- The first step fails and leaves the connection alone, so the second is not reached.
  intro c unusable
  rw [Step.bind_apply, first c unusable]

namespace Connection

/-- No command is written to a connection that is of no use. -/
theorem send_inert (command : Command) : Inert (send command) := by
  intro c unusable
  -- Sending asks whether the connection is ready before it does anything.
  have notReady : c.health ≠ .ready := by simpa [isUsable] using unusable
  simp [send, Step.bind_apply, notReady]

/-- No command is carried out over a connection that is of no use. -/
theorem execute_inert {command : Command} (single : command.framing ≠ .stream) :
    Inert (execute command) := by
  unfold execute
  -- Both kinds of exchanges begin by sending.
  cases framing : command.framing with
  | stream => exact absurd framing single
  | lines => exact (send_inert command).bind _
  | chunked => exact (send_inert command).bind _

/-- Nothing is requested over a connection that is of no use. -/
theorem request_inert {command : Command} (single : command.framing ≠ .stream) :
    Inert (request command) :=
  -- A request begins with carrying out its command.
  (execute_inert single).bind _

/-- A command that opens a stream is not carried out over any connection. -/
theorem execute_stream {command : Command} (stream : command.framing = .stream) (c : Connection) :
    execute command c
      = (.error (.wire (.invalidArgument (.needsSession command.verb))), c) := by
  -- The framing is looked at before the connection is.
  unfold execute
  rw [stream]
  rfl

end Connection

/-- No operation does anything over a connection that is of no use. -/
theorem Operation.perform_inert {op : Operation}
    (single : ∀ command, op = .execute command → command.framing ≠ .stream) :
    Inert op.perform := by
  open Connection in
  -- Every operation begins with its command, which is not sent.
  cases op with
  | execute command => exact execute_inert (single command rfl)
  | write path data => exact (send_inert _).bind _
  | chunkedCommand line => exact (send_inert _).bind _
  | openStream request => exact (send_inert _).bind _
  | command line =>
    refine request_inert ?_
    nofun
  | version | ping | shutdown | traceStop | traceStatus =>
    refine (request_inert ?_).bind _
    nofun
  | dir _ | stat _ | read _ | exec _ | execAsync _ | arexx _ _ | rename _ _ =>
    refine (request_inert ?_).bind _
    nofun
  | traceEnable _ | traceDisable _ =>
    refine (request_inert ?_).bind _
    nofun

/-- Operations leave a connection that is of no use as it is. -/
theorem Operation.perform_unusable (op : Operation) {c : Connection}
    (unusable : c.isUsable = false) : (op.perform c).2 = c := by
  by_cases stream : ∃ command, op = .execute command ∧ command.framing = .stream
  · -- Such a command is refused over any connection.
    obtain ⟨command, rfl, opens⟩ := stream
    exact congrArg Prod.snd (Connection.execute_stream opens c)
  · have single : ∀ command, op = .execute command → command.framing ≠ .stream :=
      fun command same opens => stream ⟨command, same, opens⟩
    rw [perform_inert single c unusable]

end AmigaRemote
