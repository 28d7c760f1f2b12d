import AmigaRemote.Proofs.Client.Exchange

/-! Every operation over a connection that stays usable is one whole exchange, or is refused before
anything is sent and does nothing. -/

namespace AmigaRemote

/-- A single response, of one of the two layouts that a single response can have. -/
inductive ReplyFrame (encoding : Encoding) : Framing → Bytes → Prop where
  | lines {response : Response} {frame : Bytes} (reply : ResponseFrame encoding response frame) :
    ReplyFrame encoding .lines frame
  | chunked {response : Response} {frame : Bytes} (reply : ChunkedFrame encoding response frame) :
    ReplyFrame encoding .chunked frame

namespace Operation

/-- The command of an operation. -/
def sends : Operation → Command
  | version => .version
  | ping => .ping
  | shutdown => .shutdown
  | dir path => .dir path
  | stat path => .stat path
  | read path => .read path
  | write path data => .write path (UInt64.ofNat data.length)
  | exec program => .exec program
  | execAsync program => .execAsync program
  | arexx host script => .arexx host script
  | rename source target => .rename source target
  | traceStop => .traceStop
  | traceStatus => .traceStatus
  | traceEnable names => .traceEnable names
  | traceDisable names => .traceDisable names
  | command line => .raw line
  | chunkedCommand line => .raw line
  | execute asked => asked
  | openStream request => request.command

/-- How the reply to an operation is laid out, if it is a single response. -/
def layout : Operation → Option Framing
  | write _ _ | openStream _ => none
  | chunkedCommand _ => some .chunked
  | op => some op.sends.framing

/-- Whether the command of an operation is sent at all. One that has no bytes is not, and neither is
one that would open a stream in a single exchange. -/
def isSent (encoding : Encoding) (op : Operation) : Bool :=
  op.layout ≠ some .stream && (op.sends.encode encoding).isOk

end Operation

/-- What an operation sends after its command, and all that it takes in reply. -/
inductive Answered (encoding : Encoding) : Operation → Bytes → Bytes → Prop where
  | single {op : Operation} {framing : Framing} {frame : Bytes} (layout : op.layout = some framing)
    (reply : ReplyFrame encoding framing frame) : Answered encoding op [] frame
  /-- The daemon asked for the data and answered to it. -/
  | uploaded {path : Text} {data : Bytes} {response : Response} {first rest : Bytes}
    (ready : LineFrame encoding Connection.readyLine first)
    (reply : ResponseFrame encoding response rest) :
    Answered encoding (.write path data) (Chunk.encodeAll Chunk.defaultSize data) (first ++ rest)
  | uploadRefused {path : Text} {data : Bytes} {e : DaemonError} {frame : Bytes}
    (refusal : RefusalFrame encoding e frame) : Answered encoding (.write path data) [] frame
  | streamRefused {request : StreamRequest} {e : DaemonError} {frame : Bytes}
    (refusal : RefusalFrame encoding e frame) : Answered encoding (.openStream request) [] frame

/-- An operation with the bytes it sent and those it took. -/
structure Exchange where
  operation : Operation
  sent : Bytes
  taken : Bytes

/-- An exchange of exactly a command, with the data of an upload that was asked for, and its
reply. -/
def Exchange.Proper (encoding : Encoding) (x : Exchange) : Prop :=
  ∃ command upload, x.operation.sends.encode encoding = .ok command ∧
    x.sent = command ++ upload ∧ Answered encoding x.operation upload x.taken

namespace Connection

variable {c after : Connection} {op : Operation}

/-- What an operation did to a connection that stays usable: nothing if its command was not sent,
and one whole exchange if it was. -/
def Exchanged (op : Operation) (c after : Connection) : Prop :=
  op.isSent c.settings.encoding = false ∧ after = c ∨
    op.isSent c.settings.encoding = true ∧
      ∃ x : Exchange, x.operation = op ∧ x.Proper c.settings.encoding ∧
        Moved c after x.sent x.taken

/-- An operation without bytes is not sent. -/
theorem isSent_of_error {encoding : Encoding} {e : WireError}
    (refused : op.sends.encode encoding = .error e) : op.isSent encoding = false := by
  -- Whether an operation is sent is read off what its command is encoded to.
  simp [Operation.isSent, refused, Except.isOk, Except.toBool]

/-- An operation with bytes that opens no stream is sent. -/
theorem isSent_of_ok {encoding : Encoding} {bytes : Bytes} (single : op.layout ≠ some .stream)
    (encoded : op.sends.encode encoding = .ok bytes) : op.isSent encoding = true := by
  -- As above. A stream is not sent as an operation of its own.
  simp [Operation.isSent, encoded, single, Except.isOk, Except.toBool]

/-- A command and the reading of its reply are one exchange. -/
theorem exchanged_of_done {α : Type} {framing : Framing} {reading : Reading α}
    {Frame : Encoding → α → Bytes → Prop} {outcome : Except ClientError α}
    (agree : c.reader.encoding = c.settings.encoding) (layout : op.layout = some framing)
    (takes : Takes reading Frame) (fails : FailsOnWire reading)
    (framed : ∀ encoding a frame, Frame encoding a frame → ReplyFrame encoding framing frame)
    (done : (do send op.sends; receive reading : Client α) c = (outcome, after))
    (usable : after.isUsable = true) : Exchanged op c after := by
  -- The exchange was not begun, or was gone through to its end.
  rcases exchange_done takes fails done usable with
    ⟨e, refused, _, _, same⟩ | ⟨a, bytes, frame, encoded, _, isFrame, moved⟩
  · exact .inl ⟨isSent_of_error refused, same⟩
  · rw [agree] at isFrame
    have reply := framed _ a frame isFrame
    have single : op.layout ≠ some .stream := by
      -- A stream is no single reply.
      rw [layout]
      intro opens
      cases opens
      cases reply
    refine .inr ⟨isSent_of_ok single encoded, ⟨op, bytes, frame⟩, rfl, ?_, moved⟩
    exact ⟨bytes, [], encoded, by simp, .single layout reply⟩

/-- A command that is carried out is one exchange, if it is sent. -/
theorem execute_exchanged (agree : c.reader.encoding = c.settings.encoding)
    (layout : op.layout = some op.sends.framing)
    (usable : (execute op.sends c).2.isUsable = true) :
    Exchanged op c (execute op.sends c).2 := by
  rcases done : execute op.sends c with ⟨outcome, after⟩
  rw [done] at usable
  -- The layout of the reply decides how it is read.
  cases framing : op.sends.framing with
  | stream =>
    rw [execute_stream framing] at done
    cases done
    rw [framing] at layout
    exact .inl ⟨by simp [Operation.isSent, layout], rfl⟩
  | lines =>
    rw [framing] at layout
    simp only [execute, framing] at done
    exact exchanged_of_done agree layout Reader.readResponse_takes
      Reader.readResponse_failsOnWire (fun _ _ _ => .lines) done usable
  | chunked =>
    rw [framing] at layout
    simp only [execute, framing] at done
    exact exchanged_of_done agree layout Reader.readChunkedResponse_takes
      Reader.readChunkedResponse_failsOnWire (fun _ _ _ => .chunked) done usable

/-- Most operations carry out their command and then only look at the reply. -/
theorem perform_execute (layout : op.layout = some op.sends.framing) (other : op ≠ .shutdown) :
    (op.perform c).2 = (execute op.sends c).2 := by
  -- What is made of a reply changes nothing, whatever it comes to.
  have asked : ∀ {β : Type} {command : Command} {next : Response → Client β},
      (∀ response, Step.Still (next response)) →
        ((request command >>= next) c).2 = (execute command c).2 := by
    intro β command next still
    rw [Step.bind_still _ still, request, Step.bind_still _ accept_still]
  cases op with
  | shutdown => exact absurd rfl other
  | write path data => cases layout
  | openStream request => cases layout
  | chunkedCommand line => cases layout
  | execute command => rfl
  | command line => exact Step.bind_still _ accept_still c
  | version =>
    refine asked fun response => ?_
    split
    · exact .pure _
    · exact .throw _
  | dir path => exact asked fun _ => understand_still _
  | stat path => exact asked fun _ => understand_still _
  | read path =>
    refine asked fun response => ?_
    dsimp only
    split
    · split
      · exact .throw _
      · exact .pure _
    · exact .pure _
  | exec program => exact asked fun _ => (requireReturnCode_still _).bind fun _ => .pure _
  | execAsync program =>
    refine asked fun response => ?_
    split
    · exact .pure _
    · exact .throw _
  | arexx host script =>
    exact asked fun _ => (requireReturnCode_still _).bind fun _ => Step.Still.get.bind fun _ =>
      .pure _
  | traceStatus => exact asked fun _ => understand_still _
  | ping => exact asked fun _ => .pure _
  | rename source target => exact asked fun _ => .pure _
  | traceStop => exact asked fun _ => .pure _
  | traceEnable names => exact asked fun _ => .pure _
  | traceDisable names => exact asked fun _ => .pure _

/-- A shutdown over a connection that stays usable was refused, which is one exchange. -/
theorem shutdown_exchanged (agree : c.reader.encoding = c.settings.encoding)
    (usable : (shutdown c).2.isUsable = true) : Exchanged .shutdown c (shutdown c).2 := by
  have asked : (request .shutdown c).2 = (execute .shutdown c).2 :=
    Step.bind_still _ accept_still c
  -- Over a connection that stays usable the daemon refused, which is all that was done.
  have same : (shutdown c).2 = (execute .shutdown c).2 := by
    rw [← asked]
    unfold shutdown at usable ⊢
    rw [Step.bind_apply] at usable ⊢
    rcases found : request .shutdown c with ⟨_ | response, left⟩
    · rfl
    · -- Otherwise the connection would be closed.
      rw [found] at usable
      have closed := hangUp_health left
      have ready := isUsable_iff.mp usable
      rw [closed] at ready
      cases ready
  rw [same] at usable ⊢
  exact @execute_exchanged c .shutdown agree rfl usable

/-- A line whose reply carries data is one exchange. -/
theorem chunkedCommand_exchanged {line : Text} (agree : c.reader.encoding = c.settings.encoding)
    (usable : (chunkedCommand line c).2.isUsable = true) :
    Exchanged (.chunkedCommand line) c (chunkedCommand line c).2 := by
  -- To judge the reply changes nothing after the exchange.
  have same : (chunkedCommand line c).2
      = ((do send (.raw line); receive Reader.readChunkedResponse : Client Response) c).2 := by
    unfold chunkedCommand
    rw [Step.bind_apply, Step.bind_apply]
    rcases send (.raw line) c with ⟨_ | _, next⟩
    · rfl
    · exact Step.bind_still (receive Reader.readChunkedResponse) accept_still next
  rw [same] at usable ⊢
  exact exchanged_of_done agree rfl Reader.readChunkedResponse_takes
    Reader.readChunkedResponse_failsOnWire (fun _ _ _ => .chunked) rfl usable

/-- An error over a connection that stays usable is followed by its sentinel. -/
theorem sentinel_done {α : Type} {e : ClientError} {outcome : Except ClientError α}
    (done : (do receive Reader.expectSentinel; throw e : Client α) c = (outcome, after))
    (usable : after.isUsable = true) :
    ∃ last, LineFrame c.reader.encoding Line.sentinel last ∧ Moved c after [] last := by
  rcases found : receive Reader.expectSentinel c with ⟨_ | _, between⟩
  -- In either case what was received is known from the connection that stays usable.
  all_goals
    rw [Step.bind_apply, found] at done
    cases done
    obtain ⟨_, last, success, isLast, moved⟩ := receive_done Reader.expectSentinel_takes
      Reader.expectSentinel_failsOnWire found usable
  · cases success
  · exact ⟨last, isLast, moved⟩

/-- What refuses an upload over a connection that stays usable is an error and its sentinel. -/
theorem refuseUpload_done {α : Type} {line : Text} {frame : Bytes}
    {outcome : Except ClientError α} (isLine : LineFrame c.reader.encoding line frame)
    (done : refuseUpload line c = (outcome, after)) (usable : after.isUsable = true) :
    ∃ e last, RefusalFrame c.reader.encoding e (frame ++ last) ∧ Moved c after [] last := by
  simp only [refuseUpload] at done
  -- Anything but an error line breaks the connection.
  rcases parsed : Status.parseLine line with _ | ⟨_ | _, info⟩
  · rw [parsed] at done
    cases done
    cases usable
  · rw [parsed] at done
    cases done
    cases usable
  · simp only [parsed] at done
    obtain ⟨last, isLast, moved⟩ := sentinel_done done usable
    exact ⟨_, last, .refusal ⟨line, isLine, parsed⟩ isLast, moved⟩

/-- To refuse an upload makes no connection usable. -/
theorem refuseUpload_spent {α : Type} (line : Text) :
    Step.Keeps Spent (refuseUpload line : Client α) := by
  -- The daemon either says no and ends the reply, or the line is none that it may say.
  unfold refuseUpload
  split
  · exact (receive_spent _).bind fun _ => (Step.Still.throw _).keeps
  · intro c _
    rfl

/-- What follows a request for data makes no connection usable. -/
theorem upload_spent (data : Bytes) (size : UInt64) :
    Step.Keeps Spent (do
      transmit fun sink => sink.transmit (Chunk.encodeAll Chunk.defaultSize data)
      let response ← accept (← receive Reader.readResponse)
      -- Every step reads, writes or judges, and none of these repairs a connection.
      acknowledged size response.info : Client UInt64) :=
  (transmit_spent _).bind fun _ => (receive_spent _).bind fun response =>
    (accept_still response).keeps.bind fun _ => (acknowledged_still _ _).keeps

/-- Data that was asked for over a connection that stays usable is sent whole, and answered by one
response. -/
theorem upload_done {data : Bytes} {size : UInt64} {outcome : Except ClientError UInt64}
    (done : (do
      transmit fun sink => sink.transmit (Chunk.encodeAll Chunk.defaultSize data)
      let response ← accept (← receive Reader.readResponse)
      acknowledged size response.info : Client UInt64) c = (outcome, after))
    (usable : after.isUsable = true) :
    ∃ response frame, ResponseFrame c.reader.encoding response frame ∧
      Moved c after (Chunk.encodeAll Chunk.defaultSize data) frame := by
  rcases found : transmit (fun sink => sink.transmit (Chunk.encodeAll Chunk.defaultSize data)) c
    with ⟨_ | _, between⟩
  · -- Data that was not sent whole leaves no usable connection.
    rw [Step.bind_apply, found] at done
    cases done
    cases (transmit_done found usable).1
  · obtain ⟨ready, done⟩ := usable_before (fun _ => (receive_spent _).bind fun response =>
      (accept_still response).keeps.bind fun _ => (acknowledged_still _ _).keeps) found done usable
    have sent := (transmit_done found ready).2
    -- What is made of the response changes nothing any more.
    rcases received : receive Reader.readResponse between with ⟨result, last⟩
    have looked : ∀ response : Response, Step.Still (do
        let response ← accept response
        acknowledged size response.info) :=
      fun response => (accept_still response).bind fun _ => acknowledged_still _ _
    have same : after = last := by
      have still := Step.bind_still (receive Reader.readResponse) looked between
      rw [done, received] at still
      exact still
    subst same
    obtain ⟨response, frame, _, isFrame, taken⟩ := receive_done Reader.readResponse_takes
      Reader.readResponse_failsOnWire received usable
    rw [sent.encoding] at isFrame
    exact ⟨response, frame, isFrame, by simpa using sent.trans taken⟩

/-- An upload is one exchange: the data is sent if the daemon asks for it, and not otherwise. -/
theorem write_exchanged {path : Text} {data : Bytes}
    (agree : c.reader.encoding = c.settings.encoding)
    (usable : (write path data c).2.isUsable = true) :
    Exchanged (.write path data) c (write path data c).2 := by
  rcases done : write path data c with ⟨outcome, after⟩
  rw [done] at usable
  change Exchanged _ c after
  have single : (Operation.write path data).layout ≠ some .stream := nofun
  unfold write at done
  have spent : ∀ line : Text, Step.Keeps Spent
      (if line ≠ readyLine then refuseUpload line else do
        transmit fun sink => sink.transmit (Chunk.encodeAll Chunk.defaultSize data)
        let response ← accept (← receive Reader.readResponse)
        acknowledged (UInt64.ofNat data.length) response.info : Client UInt64) := by
    intro line
    split
    · exact refuseUpload_spent line
    · exact upload_spent data _
  rcases opening_done Reader.readLine_takes Reader.readLine_failsOnWire spent done usable with
    ⟨e, refused, same⟩ | ⟨line, command, frame, between, encoded, isLine, before, done⟩
  · exact .inl ⟨isSent_of_error refused, same⟩
  have isSent := @isSent_of_ok (.write path data) _ _ single encoded
  rw [agree] at isLine
  have encoding : between.reader.encoding = c.settings.encoding := before.encoding.trans agree
  -- The first line decides whether the data is sent.
  by_cases isReady : line = readyLine
  · -- The daemon asked for the data, which goes out before the response.
    simp only [isReady, ne_eq, not_true, if_false] at done
    obtain ⟨response, rest, isFrame, moved⟩ := upload_done done usable
    rw [encoding] at isFrame
    rw [isReady] at isLine
    have whole : Moved c after (command ++ Chunk.encodeAll Chunk.defaultSize data)
        (frame ++ rest) := before.trans moved
    exact .inr ⟨isSent, ⟨.write path data, _, _⟩, rfl,
      ⟨command, _, encoded, rfl, .uploaded isLine isFrame⟩, whole⟩
  · -- The daemon refused, so nothing is sent after the command.
    simp only [ne_eq, isReady, not_false_eq_true, if_true] at done
    rw [← encoding] at isLine
    obtain ⟨e, last, refusal, moved⟩ := refuseUpload_done isLine done usable
    rw [encoding] at refusal
    have whole : Moved c after (command ++ []) (frame ++ last) := before.trans moved
    exact .inr ⟨isSent, ⟨.write path data, _, _⟩, rfl,
      ⟨command, [], encoded, rfl, .uploadRefused refusal⟩, whole⟩

/-- What follows a request for a stream makes no connection usable. -/
theorem beginStream_spent (request : StreamRequest) (parts : Status × Text) :
    Step.Keeps Spent (match parts with
      | (.err, info) => do
        receive Reader.expectSentinel
        throw (.daemon (.ofInfo info))
      | (.ok, info) => do
        setWaitLimit (← get).settings.streamLimit?
        return ⟨request.kind, info, .streaming, .armed, false, none⟩ : Client Stream) := by
  -- A line that says no is followed by the sentinel, and one that says yes by nothing yet.
  rcases parts with ⟨_ | _, info⟩
  · exact fun c spent => spent
  · exact (receive_spent _).bind fun _ => (Step.Still.throw _).keeps

/-- A request for a stream that was refused is one exchange. -/
theorem openStream_exchanged {request : StreamRequest}
    (agree : c.reader.encoding = c.settings.encoding)
    (refused : ∀ stream, (openStream request c).1 ≠ .ok stream)
    (usable : (openStream request c).2.isUsable = true) :
    Exchanged (.openStream request) c (openStream request c).2 := by
  rcases done : openStream request c with ⟨outcome, after⟩
  rw [done] at usable refused
  change Exchanged _ c after
  have single : (Operation.openStream request).layout ≠ some .stream := nofun
  unfold openStream at done
  rcases opening_done Reader.readStatus_takes Reader.readStatus_failsOnWire
      (beginStream_spent request) done usable with
    ⟨e, notSent, same⟩ | ⟨⟨status, info⟩, command, frame, between, encoded, isStatus, before, done⟩
  · exact .inl ⟨isSent_of_error notSent, same⟩
  rw [agree] at isStatus
  have encoding : between.reader.encoding = c.settings.encoding := before.encoding.trans agree
  -- The status decides whether there is a stream.
  cases status with
  | ok =>
    -- Then there would be a stream.
    cases done
    exact absurd rfl (refused _)
  | err =>
    obtain ⟨last, isLast, moved⟩ := sentinel_done done usable
    rw [encoding] at isLast
    have whole : Moved c after (command ++ []) (frame ++ last) := before.trans moved
    exact .inr ⟨@isSent_of_ok (.openStream request) _ _ single encoded,
      ⟨.openStream request, _, _⟩, rfl,
      ⟨command, [], encoded, rfl, .streamRefused (.refusal isStatus isLast)⟩, whole⟩

/-- Every operation that opens no stream is one exchange, if it is sent. -/
theorem perform_exchanged (agree : c.reader.encoding = c.settings.encoding)
    (refused : ∀ request stream, op = .openStream request →
      (openStream request c).1 ≠ .ok stream)
    (usable : (op.perform c).2.isUsable = true) : Exchanged op c (op.perform c).2 := by
  by_cases layout : op.layout = some op.sends.framing ∧ op ≠ .shutdown
  · rw [perform_execute layout.1 layout.2] at usable ⊢
    exact execute_exchanged agree layout.1 usable
  · -- What is left is laid out in a way of its own, or ends the connection.
    cases op with
    | shutdown => exact shutdown_exchanged agree usable
    | write path data => exact write_exchanged agree usable
    | chunkedCommand line => exact chunkedCommand_exchanged agree usable
    | openStream request =>
      exact openStream_exchanged agree (fun stream => refused request stream rfl) usable
    | _ => exact absurd ⟨rfl, nofun⟩ layout

/-- A command without bytes is refused over a usable connection, which is left as it was. -/
theorem send_refused {command : Command} {e : WireError}
    (refused : command.encode c.settings.encoding = .error e) (usable : c.isUsable = true) :
    send command c = (.error (.wire e), c) := by
  have early := Command.encode_error refused
  rw [send_usable command usable]
  -- Encoding comes before the first byte, so the sink is not touched.
  simp only [transmit, Sink.sendCommand, refused, guard, early, if_true]
  rfl

/-- A command without bytes is not carried out over a usable connection, which is left as it was. -/
theorem execute_refused {command : Command} {e : WireError} (single : command.framing ≠ .stream)
    (refused : command.encode c.settings.encoding = .error e) (usable : c.isUsable = true) :
    execute command c = (.error (.wire e), c) := by
  have sent := send_refused refused usable
  unfold execute
  -- Whatever the layout of the reply, sending comes first.
  cases framing : command.framing with
  | stream => exact absurd framing single
  | lines => exact Step.bind_error sent _
  | chunked => exact Step.bind_error sent _

/-- A request without bytes is refused over a usable connection, which is left as it was. -/
theorem request_refused {command : Command} {e : WireError} (single : command.framing ≠ .stream)
    (refused : command.encode c.settings.encoding = .error e) (usable : c.isUsable = true) :
    request command c = (.error (.wire e), c) :=
  -- The request gives up where its first step does, so no response is judged.
  Step.bind_error (execute_refused single refused usable) _

/-- An operation whose command is not sent is refused over a usable connection, which is left as it
was. -/
theorem perform_refused (notSent : op.isSent c.settings.encoding = false)
    (usable : c.isUsable = true) :
    ∃ e, e.beforeSending = true ∧ op.perform c = (.error (.wire e), c) := by
  -- A command that would open a stream is refused for that alone.
  by_cases opens : op.layout = some .stream
  · cases op with
    | execute command =>
      have framing : command.framing = .stream := Option.some.inj opens
      exact ⟨_, rfl, execute_stream framing c⟩
    | _ => cases opens
  · cases encoded : op.sends.encode c.settings.encoding with
    | ok bytes =>
      rw [isSent_of_ok opens encoded] at notSent
      cases notSent
    | error e =>
      refine ⟨e, Command.encode_error encoded, ?_⟩
      -- Every operation begins by sending its command.
      cases op with
      | write path data => exact Step.bind_error (send_refused encoded usable) _
      | openStream request => exact Step.bind_error (send_refused encoded usable) _
      | chunkedCommand line => exact Step.bind_error (send_refused encoded usable) _
      | command line => exact request_refused nofun encoded usable
      | execute command =>
        exact execute_refused (fun same => opens (congrArg some same)) encoded usable
      | version | ping | shutdown | traceStop | traceStatus =>
        refine Step.bind_error (request_refused ?_ encoded usable) _
        nofun
      | dir _ | stat _ | read _ | exec _ | execAsync _ | arexx _ _ | rename _ _ =>
        refine Step.bind_error (request_refused ?_ encoded usable) _
        nofun
      | traceEnable _ | traceDisable _ =>
        refine Step.bind_error (request_refused ?_ encoded usable) _
        nofun

end Connection
end AmigaRemote
