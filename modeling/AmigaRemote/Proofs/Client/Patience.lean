import AmigaRemote.Proofs.Client.Keeping
import AmigaRemote.Proofs.Wire.Patience

/-! An operation that does not ask for bytes that have not arrived gives the same, and leaves the
same, whatever arrives later. -/

namespace AmigaRemote

open Growing (Open Starved)

/-- A connection to which more has arrived. -/
def Connection.grow (arrived : List Delivery) (ending : Ending) (c : Connection) : Connection :=
  { c with reader := c.reader.grow arrived ending }

instance : Growing Connection where
  reader := Connection.reader
  grow := Connection.grow

namespace Connection

variable {α : Type}

/-- The guard judges what was found alone. -/
theorem guard_grow (arrived : List Delivery) (ending : Ending) (result : Except WireError α)
    (c : Connection) :
    guard result (c.grow arrived ending)
      = ((guard result c).1, (guard result c).2.grow arrived ending) := by
  -- A failure may break the connection, which does not touch what grows.
  cases result with
  | ok a => rfl
  | error e =>
    unfold guard
    dsimp only
    split <;> rfl

/-- Whether bytes are missing is a matter of the reader. -/
theorem starved_of_reader {c : Connection} {r : Reader} (same : c.reader = r)
    (starved : Starved r) : Starved c :=
  -- Patience looks at the ending of the source alone, which belongs to the reader.
  (congrArg (fun r : Reader => r.source.ending) same).trans starved

/-- Whether more may come is a matter of the reader. -/
theorem open_of_reader {c : Connection} {r : Reader} (same : c.reader = r) (isOpen : Open r) :
    Open c :=
  -- As above, on the other side of the alternative.
  (congrArg (fun r : Reader => r.source.ending) same).trans isOpen

/-- To judge is patient. -/
theorem guard_patient (result : Except WireError α) : Patient (guard result) :=
  -- The guard consumes nothing, so that nothing can be waited for.
  .of_unread (guard_reader result) fun arrived ending => guard_grow arrived ending result

/-- To read is patient if the reading is. -/
theorem receive_patient {reading : Reading α} (patient : Patient reading) :
    Patient (receive reading) where
  hungry := receive_keeps patient.hungry
  -- What the reading foresees is carried through the guard, which never looks at the source.
  foreseen := fun c isOpen => by
    have reader : (receive reading c).2.reader = (reading c.reader).2 := guard_reader _ _
    refine (patient.foreseen c.reader isOpen).imp (starved_of_reader reader) fun ⟨isOpen', same⟩ =>
      ⟨open_of_reader reader isOpen', fun arrived ending => ?_⟩
    have grown : reading (c.grow arrived ending).reader
        = ((reading c.reader).1, (reading c.reader).2.grow arrived ending) := same arrived ending
    simp only [receive, Growing.grow, grown]
    exact guard_grow arrived ending _ { c with reader := (reading c.reader).2 }

/-- To write is patient. -/
theorem transmit_patient (sending : Sink → Except WireError Unit × Sink) :
    Patient (transmit sending) :=
  -- A sink is written to here, and the source stays as it is.
  .of_unread (transmit_reader sending) fun arrived ending c =>
    guard_grow arrived ending _ { c with sink := (sending c.sink).2 }

/-- To send a command is patient. -/
theorem send_patient (command : Command) : Patient (send command) := by
  -- What is asked first (health and encoding) does not change when more arrives, and is fixed here
  -- before anything is written.
  refine .asks (fun c : Connection => (c.health, c.settings.encoding)) (fun known => do
    if known.1 ≠ .ready then throw .closed
    transmit fun sink => sink.sendCommand known.2 command) (fun _ _ _ => rfl) fun known => ?_
  split
  · exact (Patient.throw _).bind fun _ => transmit_patient _
  · exact transmit_patient _

/-- To hang up is patient. -/
theorem hangUp_patient : Patient hangUp := by
  -- Hanging up writes to the sink and changes the health, whatever the health was.
  refine .of_unread hangUp_reader fun arrived ending c => ?_
  unfold hangUp
  rw [Step.modify_apply, Step.modify_apply]
  by_cases closed : c.health = .closed
  · simp [closed, Growing.grow, grow]
  · simp [closed, Growing.grow, grow]

/-- To set the limit of waits is patient. -/
theorem setWaitLimit_patient (limit? : Option UInt64) : Patient (setWaitLimit limit?) :=
  -- This is kept in the reader, yet beside its source.
  .of_unread (fun _ => rfl) fun _ _ _ => rfl

/-- To carry out a command is patient. -/
theorem execute_patient (command : Command) : Patient (execute command) := by
  -- One case for each way in which a reply is framed: a stream is refused before anything is sent.
  unfold execute
  cases command.framing with
  | stream => exact guard_patient _
  | lines => exact (send_patient _).bind fun _ => receive_patient Reader.readResponse_patient
  | chunked =>
    exact (send_patient _).bind fun _ => receive_patient Reader.readChunkedResponse_patient

/-- To accept a response is patient. -/
theorem accept_patient (response : Response) : Patient (accept response) := by
  -- What is done with a response is a matter of its status alone.
  unfold accept
  split
  · exact .pure _
  · exact .throw _

/-- To ask is patient. -/
theorem request_patient (command : Command) : Patient (request command) :=
  -- Patience goes through the sequencing of steps, so that only the parts had to be looked at.
  (execute_patient _).bind accept_patient

/-- To understand a reply is patient. -/
theorem understand_patient (result : Except ReplyFault α) : Patient (understand result) := by
  -- The result is at hand already, and nothing is read any more.
  cases result with
  | ok a => exact .pure a
  | error fault => exact .throw _

/-- To look for a return code is patient. -/
theorem requireReturnCode_patient (info : Text) : Patient (requireReturnCode info) := by
  -- The text of the reply is at hand, and the connection is not touched in either branch.
  unfold requireReturnCode
  split
  · exact .pure _
  · exact .throw _

/-- To understand an acknowledgement is patient. -/
theorem acknowledged_patient (size : UInt64) (info : Text) : Patient (acknowledged size info) := by
  -- As for the return code: both tests look at the text alone.
  unfold acknowledged
  split
  · exact .pure _
  · split
    · exact .pure _
    · exact .throw _

/-- To break off is patient. -/
theorem breakOff_patient (e : WireError) : Patient (breakOff e : Client α) :=
  -- To break off changes the health of the connection, and only that.
  .of_unread (fun _ => rfl) fun _ _ _ => rfl

/-- To refuse an upload is patient. -/
theorem refuseUpload_patient (line : Text) : Patient (refuseUpload line : Client α) := by
  -- An error line is followed by the sentinel, which has to be waited for; any other line ends the
  -- matter.
  unfold refuseUpload
  split
  · exact (receive_patient Reader.expectSentinel_patient).bind fun _ => .throw _
  · exact breakOff_patient _

/-- An upload is patient. -/
theorem write_patient (path : Text) (data : Bytes) : Patient (write path data) := by
  -- Announce and hear the go-ahead: the line that is heard decides what follows.
  refine (send_patient _).bind fun _ =>
    (receive_patient Reader.readLine_patient).bind fun line => ?_
  split
  · exact refuseUpload_patient line
  · -- Behind the go-ahead the body is written, and then the reply is read.
    exact (transmit_patient _).bind fun _ =>
      (receive_patient Reader.readResponse_patient).bind fun response =>
        (accept_patient response).bind fun _ => acknowledged_patient _ _

/-- To ask for a stream is patient. -/
theorem openStream_patient (request : StreamRequest) : Patient (openStream request) := by
  -- The status line decides: an error is confirmed by the sentinel, a success turns into a stream.
  refine (send_patient _).bind fun _ =>
    (receive_patient Reader.readStatus_patient).bind fun (status, info) => ?_
  cases status with
  | err => exact (receive_patient Reader.expectSentinel_patient).bind fun _ => .throw _
  | ok =>
    -- The limit of waits is read from the settings, which stay as they are when more arrives.
    let opens (limit? : Option UInt64) : Client Stream := do
      setWaitLimit limit?
      return ⟨request.kind, info, .streaming, .armed, false, none⟩
    exact .asks (fun c : Connection => c.settings.streamLimit?) opens (fun _ _ _ => rfl)
      fun limit? => (setWaitLimit_patient limit?).bind fun _ => .pure _

/-- What the first line of a daemon makes of a transport. -/
def greeted (settings : Settings) (sink : Sink) (reader : Reader) :
    Except WireError Text → Except ClientError Connection
  | .error e => .error (.wire e)
  | .ok banner =>
    match Banner.parse banner with
    | .error e => .error (.wire e)
    | .ok version => .ok ⟨reader, sink, settings, .ready, settings.replyLimit?, banner, version⟩

/-- A greeting is the first line, and what it makes of the transport. -/
theorem greet_of_line {settings : Settings} {source : Source} {reader : Reader}
    {line : Except WireError Text} (sink : Sink)
    (read : Reader.readLine (.ofSource source settings.encoding) = (line, reader)) :
    greet settings source sink = (greeted settings sink reader line, reader) := by
  unfold greet
  rw [read]
  rcases line with e | banner
  · rfl
  · dsimp only
    -- Both sides judge the same banner.
    split <;> rename_i parsed <;> simp only [greeted, parsed]

/-- A greeting leaves a connection, if it leaves one, with what is left to read. -/
theorem greet_reader {settings : Settings} {source : Source} {sink : Sink} {reader : Reader}
    {c : Connection} (greets : greet settings source sink = (.ok c, reader)) :
    c.reader = reader := by
  -- The reader that is left is put into the connection as it is.
  rcases read : Reader.readLine (.ofSource source settings.encoding) with ⟨line, left⟩
  obtain ⟨leaves, rfl⟩ := Prod.mk.inj (greets.symm.trans (greet_of_line sink read))
  rcases line with e | banner
  · cases leaves
  · unfold greeted at leaves
    dsimp only at leaves
    split at leaves
    · cases leaves
    · cases leaves
      rfl

end Connection

/-- Every operation is patient. -/
theorem Operation.perform_patient (op : Operation) : Patient op.perform := by
  open Connection in
  -- Several operations are a request whose answer is dropped.
  have done (command : Command) : Patient (do let _ ← request command : Client Unit) :=
    (request_patient command).bind fun _ => .pure ()
  -- One case per operation: each is a sequence of the steps above.
  cases op with
  | version =>
    refine (request_patient _).bind fun response => ?_
    split
    · exact .pure _
    · exact .throw _
  | ping => exact done .ping
  | shutdown => exact (request_patient .shutdown).bind fun _ => hangUp_patient
  | dir path => exact (request_patient _).bind fun _ => understand_patient _
  | stat path => exact (request_patient _).bind fun _ => understand_patient _
  | read path =>
    refine (request_patient _).bind fun response => ?_
    dsimp only
    split
    · split
      · exact .throw _
      · exact .pure _
    · exact .pure _
  | write path data => exact write_patient path data
  | exec program =>
    exact (request_patient _).bind fun _ => (requireReturnCode_patient _).bind fun _ => .pure _
  | execAsync program =>
    refine (request_patient _).bind fun response => ?_
    split
    · exact .pure _
    · exact .throw _
  | arexx host script =>
    refine (request_patient _).bind fun response => (requireReturnCode_patient _).bind fun rc => ?_
    let replies (encoding : Encoding) : Client ScriptReply :=
      return ⟨rc, (encoding.decode response.data).trimEndOf Command.breaksLine⟩
    exact .asks (fun c : Connection => c.settings.encoding) replies (fun _ _ _ => rfl)
      fun _ => .pure _
  | rename source target => exact done (.rename source target)
  | traceStop => exact done .traceStop
  | traceStatus => exact (request_patient _).bind fun _ => understand_patient _
  | traceEnable names => exact done (.traceEnable names)
  | traceDisable names => exact done (.traceDisable names)
  | command line => exact request_patient _
  | chunkedCommand line =>
    exact (send_patient _).bind fun _ =>
      (receive_patient Reader.readChunkedResponse_patient).bind accept_patient
  | execute asked => exact execute_patient asked
  | openStream request => exact openStream_patient request

end AmigaRemote
