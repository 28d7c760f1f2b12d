import AmigaRemote.Proofs.Client.Answered
import AmigaRemote.Proofs.Wire.Keeping

/-! What every operation keeps: whatever is kept by each reading it does, by writing, by a failure
that breaks the connection and by hanging up. -/

namespace AmigaRemote

namespace Connection

/-- A property of connections that is kept by all that operations are made of. -/
structure Preserved (property : Connection → Prop) : Prop where
  guard : ∀ {α : Type} (result : Except WireError α), Step.Keeps property (guard result)
  transmit : ∀ sending, Step.Keeps property (transmit sending)
  line : Step.Keeps property (receive Reader.readLine)
  sentinel : Step.Keeps property (receive Reader.expectSentinel)
  response : Step.Keeps property (receive Reader.readResponse)
  chunked : Step.Keeps property (receive Reader.readChunkedResponse)
  hangUp : Step.Keeps property hangUp

namespace Preserved

variable {property : Connection → Prop} {α : Type}

/-- To send a command keeps what writing keeps. -/
theorem send (preserved : Preserved property) (command : Command) :
    Step.Keeps property (send command) := by
  intro c holds
  -- Either the command is written, or nothing happens at all.
  by_cases usable : c.isUsable = true
  · rw [send_usable command usable]
    exact preserved.transmit _ holds
  · rwa [send_inert command c (by simpa using usable)]

/-- To carry out a command is to send it and to read a response. -/
theorem execute (preserved : Preserved property) (command : Command) :
    Step.Keeps property (execute command) := by
  -- What is read behind the command depends on its framing, and each reading has a field.
  unfold Connection.execute
  cases command.framing with
  | stream => exact preserved.guard _
  | lines => exact (preserved.send _).bind fun _ => preserved.response
  | chunked => exact (preserved.send _).bind fun _ => preserved.chunked

/-- To ask is to carry out a command and to judge the response. -/
theorem request (preserved : Preserved property) (command : Command) :
    Step.Keeps property (request command) :=
  -- Whatever the response is judged to be, it has been read by then.
  (preserved.execute _).bind fun response => (accept_still response).keeps

/-- To break a connection off keeps what a failure keeps. -/
theorem breakOff (preserved : Preserved property) {e : WireError} (late : e.beforeSending = false) :
    Step.Keeps property (breakOff e : Client α) := by
  -- A failure goes through the guard, with an error that is not harmless.
  have kept := preserved.guard (.error e : Except WireError α)
  rwa [Connection.guard, late] at kept

/-- To refuse an upload is to read the sentinel or to break the connection off. -/
theorem refuseUpload (preserved : Preserved property) (line : Text) :
    Step.Keeps property (refuseUpload line : Client α) := by
  -- Only a line that says no has a sentinel behind it.
  unfold Connection.refuseUpload
  split
  · exact preserved.sentinel.bind fun _ => (Step.Still.throw _).keeps
  · exact preserved.breakOff rfl

/-- To be done with a connection is to say farewell and to hang up. -/
theorem release (preserved : Preserved property) {c : Connection} (holds : property c) :
    property c.release := by
  -- The farewell is said only over a connection in use, and hanging up follows in any case.
  unfold Connection.release
  dsimp only
  split
  · exact preserved.hangUp (preserved.request .quit holds)
  · exact preserved.hangUp holds

/-- Every operation but a request for a stream keeps what all its parts keep. -/
theorem perform (preserved : Preserved property) {op : Operation}
    (single : ∀ request, op ≠ .openStream request) {c : Connection} (holds : property c) :
    property (op.perform c).2 := by
  -- Most operations are a command that is carried out, and no more.
  have asked (layout : op.layout = some op.sends.framing) (other : op ≠ .shutdown) :
      property (op.perform c).2 := by
    rw [perform_execute layout other]
    exact preserved.execute _ holds
  cases op with
  | openStream request => exact absurd rfl (single request)
  | shutdown => exact (preserved.request _).bind (fun _ => preserved.hangUp) holds
  | write path data =>
    refine (preserved.send _).bind (fun _ => preserved.line.bind fun line => ?_) holds
    split
    · exact preserved.refuseUpload line
    · exact (preserved.transmit _).bind fun _ => preserved.response.bind fun response =>
        (accept_still response).keeps.bind fun _ => (acknowledged_still _ _).keeps
  | chunkedCommand line =>
    exact (preserved.send _).bind (fun _ => preserved.chunked.bind fun response =>
      (accept_still response).keeps) holds
  | _ => exact asked rfl nofun

end Preserved

variable {property : Reader → Prop} {α : Type}

/-- What does not read keeps everything of the reader. -/
theorem keeps_of_reader {act : Client α} (same : ∀ c, (act c).2.reader = c.reader) :
    Step.Keeps (fun c : Connection => property c.reader) act :=
  -- The property does not see more of a connection than its reader.
  fun c holds => (congrArg property (same c)).mpr holds

/-- To read keeps of the reader what the reading keeps. -/
theorem receive_keeps {reading : Reading α} (keeps : Step.Keeps property reading) :
    Step.Keeps (fun c : Connection => property c.reader) (receive reading) := by
  -- The guard behind the reading leaves the reader as the reading left it.
  intro c holds
  dsimp only [receive]
  rw [guard_reader]
  exact keeps holds

/-- Operations keep of the reader what readings keep. -/
theorem reader_preserved (preserved : Reader.Preserved property) :
    Preserved fun c => property c.reader where
  -- Of the fields only the readings touch the reader, and those keep the property.
  guard := fun result => keeps_of_reader (guard_reader result)
  transmit := fun sending => keeps_of_reader (transmit_reader sending)
  line := receive_keeps preserved.readLine
  sentinel := receive_keeps preserved.expectSentinel
  response := receive_keeps preserved.readResponse
  chunked := receive_keeps preserved.readChunkedResponse
  hangUp := keeps_of_reader hangUp_reader

/-- To ask for a stream keeps of the reader what readings keep. -/
theorem openStream_keeps (preserved : Reader.Preserved property) (request : StreamRequest) :
    Step.Keeps (fun c : Connection => property c.reader) (openStream request) := by
  -- The request is sent, one line is read, and behind a refusal the sentinel.
  refine ((reader_preserved preserved).send _).bind fun _ =>
    (receive_keeps preserved.readStatus).bind fun parts => ?_
  rcases parts with ⟨_ | _, info⟩
  · exact .bind .get fun _ => .bind (fun _ holds => holds) fun _ => .pure _
  · exact (receive_keeps preserved.expectSentinel).bind fun _ => (Step.Still.throw _).keeps

end Connection
end AmigaRemote
