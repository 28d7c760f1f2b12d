import AmigaRemote.Client.Upload
import AmigaRemote.Proofs.Client.Health
import AmigaRemote.Proofs.Stream.Outcomes
import AmigaRemote.Proofs.Wire.TransferGrammar
import AmigaRemote.Proofs.Wire.Writing

/-! An error line means the same error wherever it stands: as a whole reply, within a transfer, in a
stream, or in place of a stream or of the go-ahead for an upload. -/

namespace AmigaRemote

/-- An error line and the sentinel. -/
inductive ErrorLayout (encoding : Encoding) (info : Text) : Layout → Prop where
  | line {first last : Layout} (head : StatusLayout encoding (.err, info) first)
    (sentinel : SentinelLayout last) : ErrorLayout encoding info (first ++ last)

/-- A response reports an error, and keeps some data that came before it. -/
structure Response.Reports (response : Response) (e : DaemonError) (data : Bytes) : Prop where
  error : response.error? = some e
  result : response.result = .error e
  data : response.data = data

/-- The daemon breaks a stream off with an error, before some other bytes that come. -/
structure Session.Aborts (s : Session) (e : DaemonError) (rest : Bytes) : Prop where
  failure : (nextEvent s).2.stream.failure = some e
  only : ∀ event, (nextEvent s).1 = .ok event → event = some (.aborted e)
  -- Nothing but the missing answer to a stop that crossed the error can hide it.
  event : (s.stream.endByItself.crossedStop = true →
      ∃ response layout, ResponseLayout s.connection.reader.encoding response layout ∧
        layout.Short ∧ layout.bytes <+: rest) →
    (nextEvent s).1 = .ok (some (.aborted e))

/-- Bytes that report an error, wherever they come. -/
structure DaemonError.ReportedBy (encoding : Encoding) (e : DaemonError) (frame : Bytes) :
    Prop where
  response : ∃ response : Response, response.Reports e [] ∧
    Prompt Reader.readResponse encoding response frame
  chunkedResponse : ∃ response : Response, response.Reports e [] ∧
    Prompt Reader.readChunkedResponse encoding response frame
  -- The error stands in place of the first chunk or of a later one.
  transfer : ∀ {info : Text} {chunks : List Bytes} {head blocks : Layout},
    StatusLayout encoding (.ok, info) head → BlocksLayout encoding chunks blocks →
    (head ++ blocks).Short → ∃ response : Response, response.Reports e chunks.flatten ∧
      Prompt Reader.readChunkedResponse encoding response ((head ++ blocks).bytes ++ frame)
  chunk : Prompt Reader.readChunk encoding (.aborted e) frame
  stream : ∀ {s : Session} {rest : Bytes}, s.stream.state = .streaming →
    s.connection.reader.encoding = encoding → s.connection.reader.coming = frame ++ rest →
    s.Aborts e rest
  streamRefused : ∀ {c : Connection} {request : StreamRequest} {sink : Sink} {rest : Bytes},
    c.isUsable = true → c.reader.encoding = encoding →
    c.sink.sendCommand c.settings.encoding request.command = (.ok (), sink) →
    c.reader.coming = frame ++ rest →
    ∃ reader, Connection.openStream request c = (.error (.daemon e), { c with sink, reader }) ∧
      reader.coming = rest
  uploadRefused : ∀ {c : Connection} {path : Text} {data : Bytes} {sink : Sink} {rest : Bytes},
    c.isUsable = true → c.reader.encoding = encoding →
    c.sink.sendCommand c.settings.encoding (.write path (.ofNat data.length)) = (.ok (), sink) →
    c.reader.coming = frame ++ rest →
    ∃ reader, Connection.write path data c = (.error (.daemon e), { c with sink, reader }) ∧
      reader.coming = rest

/-- Whatever fails, fails for no error of the daemon but one. -/
def DaemonError.IsOnly {α : Type} (e : DaemonError) : Except ClientError α → Prop
  | .ok _ => False
  | .error (.daemon e') => e' = e
  | .error _ => True

/-- Bytes from which no other error is read, wherever they stand and whether or not all of them can
be read. -/
structure DaemonError.SoleIn (encoding : Encoding) (e : DaemonError) (frame : Bytes) : Prop where
  response : ∀ {r after : Reader} {response : Response}, r.encoding = encoding →
    frame <+: r.unread → Reader.readResponse r = (.ok response, after) → response.Reports e []
  chunkedResponse : ∀ {r after : Reader} {response : Response}, r.encoding = encoding →
    frame <+: r.unread → Reader.readChunkedResponse r = (.ok response, after) →
    response.Reports e []
  transfer : ∀ {info : Text} {chunks : List Bytes} {head blocks : Layout},
    StatusLayout encoding (.ok, info) head → BlocksLayout encoding chunks blocks →
    ∀ {r after : Reader} {response : Response}, r.encoding = encoding →
      (head ++ blocks).bytes ++ frame <+: r.unread →
      Reader.readChunkedResponse r = (.ok response, after) → response.Reports e chunks.flatten
  chunk : ∀ {r after : Reader} {chunk : Chunk}, r.encoding = encoding → frame <+: r.unread →
    Reader.readChunk r = (.ok chunk, after) → chunk = .aborted e
  stream : ∀ {s : Session}, s.stream.state = .streaming →
    s.connection.reader.encoding = encoding → frame <+: s.connection.unread →
    (∀ event, s.nextEvent.1 = .ok event → event = some (.aborted e)) ∧
      (s.nextEvent.2.stream.failure = some e ∨
        s.nextEvent.2.stream.failure = s.stream.failure)
  streamRefused : ∀ {c : Connection} (request : StreamRequest), c.reader.encoding = encoding →
    frame <+: c.unread → e.IsOnly (Connection.openStream request c).1
  uploadRefused : ∀ {c : Connection} (path : Text) (data : Bytes), c.reader.encoding = encoding →
    frame <+: c.unread → e.IsOnly (Connection.write path data c).1

namespace Connection

variable {c : Connection} {sink : Sink} {rest : Bytes}

/-- What the guard stops is a failure of the wire. -/
theorem guard_error {α : Type} {result : Except WireError α} {after : Connection} {e : ClientError}
    (failed : guard result c = (.error e, after)) : ∃ cause, e = .wire cause := by
  -- The guard only lets errors of the wire pass, and wraps each of them.
  cases result with
  | ok a => cases failed
  | error cause =>
    simp only [guard] at failed
    split at failed
    all_goals
      cases failed
      exact ⟨cause, rfl⟩

/-- What follows a reading fails for one error only, if it does so wherever the reading succeeds. -/
theorem isOnly_receive {α β : Type} {reading : Reading α} {next : α → Client β} {e : DaemonError}
    (going : ∀ a after, reading c.reader = (.ok a, after.reader) → e.IsOnly (next a after).1) :
    e.IsOnly ((receive reading >>= next) c).1 := by
  -- A reading that fails is a failure of the wire, which is no error of the daemon at all.
  rcases heard : receive reading c with ⟨cause | a, after⟩
  · obtain ⟨_, rfl⟩ := guard_error heard
    rw [Step.bind_error heard]
    trivial
  · rw [Step.bind_apply, heard]
    exact going a after (receive_ok heard).1

/-- What follows a command fails for one error only, if it does so wherever the command is sent. -/
theorem isOnly_send {β : Type} {command : Command} {next : Unit → Client β} {e : DaemonError}
    (going : ∀ after, after.reader = c.reader → e.IsOnly (next () after).1) :
    e.IsOnly ((send command >>= next) c).1 := by
  -- A command that is not sent, for whatever reason, is no error of the daemon either.
  by_cases usable : c.isUsable = true
  · rcases sent : send command c with ⟨cause | _, after⟩
    · have stopped := sent
      rw [send_usable command usable] at stopped
      obtain ⟨_, rfl⟩ := guard_error stopped
      rw [Step.bind_error sent]
      trivial
    · rw [Step.bind_apply, sent]
      rw [send_usable command usable] at sent
      obtain ⟨_, rfl⟩ := guard_ok sent
      exact going _ rfl
  · rw [Step.bind_error (send_inert command c (by simpa using usable))]
    trivial

/-- A command that the transport takes was sent, and nothing else has changed. -/
theorem send_taken {command : Command} (usable : c.isUsable = true)
    (sent : c.sink.sendCommand c.settings.encoding command = (.ok (), sink)) :
    send command c = (.ok (), { c with sink }) := by
  -- With the sink's answer known, sending is a computation.
  rw [send_usable command usable]
  simp only [transmit, sent, guard]
  rfl

/-- What comes is received, and nothing else has changed. -/
theorem receive_prompt {α : Type} {reading : Reading α} {encoding : Encoding} {a : α}
    {wanted : Bytes} (prompt : Prompt reading encoding a wanted)
    (kept : c.reader.encoding = encoding) (comes : c.reader.coming = wanted ++ rest) :
    ∃ reader, receive reading c = (.ok a, { c with reader }) ∧ reader.coming = rest ∧
      reader.encoding = encoding := by
  -- What comes first is exactly what the reading wants, so it succeeds without looking further.
  obtain ⟨reader, read, behind, _, kept', _⟩ := prompt kept comes
  refine ⟨reader, ?_, behind, kept'⟩
  simp only [receive, read, guard]
  rfl

end Connection

/-- The daemon breaks a stream off with the error that is the next to be read. -/
theorem Session.aborts {s : Session} {e : DaemonError} {frame rest : Bytes}
    (prompt : Prompt Reader.readChunk s.connection.reader.encoding (.aborted e) frame)
    (streams : s.stream.state = .streaming)
    (comes : s.connection.reader.coming = frame ++ rest) : s.Aborts e rest := by
  obtain ⟨reader, read, behind, _, kept, _⟩ := prompt rfl comes
  -- The stream learns of the error before the way back to commands is taken.
  have ends : Reader.readChunk s.connection.reader = (.ok (.ofEnd (some e)), reader) := read
  rcases nextEvent_ofEnd_cases streams ends with
    ⟨after, _, next⟩ | ⟨lost, after, crossed, failed, next⟩
  · exact ⟨by rw [next]; rfl, by rw [next]; rintro _ ⟨⟩; rfl, fun _ => by rw [next]; rfl⟩
  · refine ⟨by rw [next]; rfl, by rw [next]; nofun, fun answered => ?_⟩
    -- An answer that comes would have been read.
    obtain ⟨response, layout, isResponse, short, answer, whole⟩ := answered crossed
    obtain ⟨_, read', _⟩ := isResponse.asks.prompt short kept (behind.trans whole.symm)
    rw [failed] at read'
    cases read'

namespace ErrorLayout

variable {encoding : Encoding} {info : Text} {layout : Layout}

/-- A reply that is an error line reports the error. -/
theorem response (isError : ErrorLayout encoding info layout) :
    ResponseLayout encoding ⟨.err, info, .lines []⟩ layout := by
  -- A response may be an error line and no more, with nothing between it and the sentinel.
  cases isError with
  | line head sentinel => exact .lines head (.sentinel sentinel)

/-- A reply that is an error line reports the error where data was asked for, too. -/
theorem chunkedResponse (isError : ErrorLayout encoding info layout) :
    ChunkedLayout encoding ⟨.err, info, .lines []⟩ layout := by
  -- As above, with the form that a refused transfer has.
  cases isError with
  | line head sentinel => exact .refused head (.sentinel sentinel)

/-- An error line in place of a chunk is the error. -/
theorem chunk (isError : ErrorLayout encoding info layout) :
    ChunkLayout encoding (.aborted (.ofInfo info)) layout := by
  -- The line stands where the line of a block would.
  cases isError with
  | line head sentinel => exact .aborted head sentinel

/-- An error line behind the blocks of a transfer ends it. -/
theorem transferred (isError : ErrorLayout encoding info layout) {said : Text}
    {chunks : List Bytes} {head blocks : Layout} (isHead : StatusLayout encoding (.ok, said) head)
    (isBlocks : BlocksLayout encoding chunks blocks) :
    ChunkedLayout encoding (.ofTransfer said chunks (some (.ofInfo info)))
      (head ++ blocks ++ layout) := by
  -- The blocks come first, and the error takes the place of the next one.
  rw [List.append_assoc]
  exact .transferred isHead (isBlocks.transfer isError.chunk)

/-- A transfer that ends with an error reports it, and keeps the data before it. -/
theorem reports_ofTransfer (said : Text) (chunks : List Bytes) (info : Text) :
    (Response.ofTransfer said chunks (some (.ofInfo info))).Reports (.ofInfo info)
      chunks.flatten := by
  -- The error is written anew behind the data, and read from what was written.
  have again : DaemonError.ofInfo (DaemonError.ofInfo info).info = .ofInfo info :=
    DaemonError.ofInfo_info _
  exact ⟨congrArg some again, congrArg Except.error again, rfl⟩

/-- No stream is opened where an error line comes. -/
theorem openStream_refused (isError : ErrorLayout encoding info layout) (short : layout.Short)
    {c : Connection} {request : StreamRequest} {sink : Sink} {rest : Bytes}
    (usable : c.isUsable = true) (kept : c.reader.encoding = encoding)
    (sent : c.sink.sendCommand c.settings.encoding request.command = (.ok (), sink))
    (comes : c.reader.coming = layout.bytes ++ rest) :
    ∃ reader, Connection.openStream request c
        = (.error (.daemon (.ofInfo info)), { c with sink, reader }) ∧ reader.coming = rest := by
  -- First the line itself is received and then the sentinel behind it, which are all that is read.
  cases isError with
  | line head sentinel =>
    obtain ⟨shortHead, shortSentinel⟩ := Layout.short_append.mp short
    rw [Layout.bytes_append, List.append_assoc] at comes
    have asked := Connection.send_taken usable sent
    obtain ⟨middle, refused, behind, kept'⟩ :=
      @Connection.receive_prompt { c with sink } _ _ _ _ _ _
        (head.asks.prompt shortHead) kept comes
    obtain ⟨reader, ended, behind', _⟩ :=
      @Connection.receive_prompt { c with sink, reader := middle } _ _ _ _ _ _
        (sentinel.asks.prompt shortSentinel) kept' behind
    refine ⟨reader, ?_, behind'⟩
    unfold Connection.openStream
    simp only [Step.bind_apply, asked, refused, ended, Step.throw_apply]

/-- No data is asked for where an error line comes. -/
theorem write_refused (isError : ErrorLayout encoding info layout) (short : layout.Short)
    {c : Connection} {path : Text} {data : Bytes} {sink : Sink} {rest : Bytes}
    (usable : c.isUsable = true) (kept : c.reader.encoding = encoding)
    (sent : c.sink.sendCommand c.settings.encoding (.write path (.ofNat data.length))
      = (.ok (), sink))
    (comes : c.reader.coming = layout.bytes ++ rest) :
    ∃ reader, Connection.write path data c
        = (.error (.daemon (.ofInfo info)), { c with sink, reader }) ∧ reader.coming = rest := by
  cases isError with
  | @line first last head sentinel =>
    obtain ⟨shortHead, shortSentinel⟩ := Layout.short_append.mp short
    rw [Layout.bytes_append, List.append_assoc] at comes
    cases head with
    | @line _ _ raw said isLine verdict =>
      have parsed := parseLine_decode.mpr verdict
      -- A line of failure is not the one that asks for the data.
      have notReady : encoding.decode said ≠ Connection.readyLine := by
        rintro same
        rw [same] at parsed
        cases parsed
      have asked := Connection.send_taken usable sent
      obtain ⟨middle, refused, behind, kept'⟩ :=
        @Connection.receive_prompt { c with sink } _ _ _ _ _ _
          (isLine.asks.prompt shortHead) kept comes
      obtain ⟨reader, ended, behind', _⟩ :=
        @Connection.receive_prompt { c with sink, reader := middle } _ _ _ _ _ _
          (sentinel.asks.prompt shortSentinel) kept' behind
      refine ⟨reader, ?_, behind'⟩
      unfold Connection.write
      simp only [Step.bind_apply, asked, refused, if_pos notReady, Connection.refuseUpload, parsed,
        ended, Step.throw_apply]

/-- Where a line of failure stands, no stream is opened, and no other error is read. -/
theorem openStream_isOnly (isError : ErrorLayout encoding info layout) {c : Connection}
    (request : StreamRequest) (kept : c.reader.encoding = encoding)
    (front : layout.bytes <+: c.unread) :
    (DaemonError.ofInfo info).IsOnly (Connection.openStream request c).1 := by
  -- The first line decides that the stream is refused, and what follows can only fail otherwise.
  cases isError with
  | @line first last head sentinel =>
    rw [Layout.bytes_append] at front
    refine Connection.isOnly_send fun asked same =>
      Connection.isOnly_receive fun parts after read => ?_
    rw [same] at read
    obtain ⟨rfl, _⟩ := head.asks.took kept ((List.prefix_append _ _).trans front) read
    exact Connection.isOnly_receive fun _ _ _ => rfl

/-- Where a line of failure stands, no data is sent, and no other error is read. -/
theorem write_isOnly (isError : ErrorLayout encoding info layout) {c : Connection} (path : Text)
    (data : Bytes) (kept : c.reader.encoding = encoding) (front : layout.bytes <+: c.unread) :
    (DaemonError.ofInfo info).IsOnly (Connection.write path data c).1 := by
  cases isError with
  | @line first last head sentinel =>
    rw [Layout.bytes_append] at front
    cases head with
    | @line _ _ raw said isLine verdict =>
      have parsed := parseLine_decode.mpr verdict
      -- A line of failure is not the one that asks for the data.
      have notReady : encoding.decode said ≠ Connection.readyLine := by
        rintro same
        rw [same] at parsed
        cases parsed
      refine Connection.isOnly_send fun asked same =>
        Connection.isOnly_receive fun line after read => ?_
      rw [same] at read
      obtain ⟨rfl, _⟩ := isLine.asks.took kept ((List.prefix_append _ _).trans front) read
      simp only [if_pos notReady, Connection.refuseUpload, parsed]
      exact Connection.isOnly_receive fun _ _ _ => rfl

/-- An error line reports the error that its info says, wherever it comes. -/
theorem reportedBy (isError : ErrorLayout encoding info layout) (short : layout.Short) :
    DaemonError.ReportedBy encoding (.ofInfo info) layout.bytes where
  -- Each of the paths on which errors come reads its own form of the line, with the rest untouched.
  response := ⟨_, ⟨rfl, rfl, rfl⟩, isError.response.asks.prompt short⟩
  chunkedResponse := ⟨_, ⟨rfl, rfl, rfl⟩, isError.chunkedResponse.asks.prompt short⟩
  transfer := by
    intro info' chunks head blocks isHead isBlocks shortFront
    have read := (isError.transferred isHead isBlocks).asks.prompt
      (Layout.short_append.mpr ⟨shortFront, short⟩)
    rw [Layout.bytes_append] at read
    exact ⟨_, reports_ofTransfer info' chunks info, read⟩
  chunk := isError.chunk.asks.prompt short
  stream streams kept comes := Session.aborts (kept ▸ isError.chunk.asks.prompt short) streams comes
  streamRefused := isError.openStream_refused short
  uploadRefused := isError.write_refused short

/-- From an error line no other error is read than the one that its info says. -/
theorem soleIn (isError : ErrorLayout encoding info layout) :
    DaemonError.SoleIn encoding (.ofInfo info) layout.bytes where
  response := by
    intro r after response kept front read
    obtain ⟨rfl, _⟩ := isError.response.asks.took kept front read
    exact ⟨rfl, rfl, rfl⟩
  chunkedResponse := by
    intro r after response kept front read
    obtain ⟨rfl, _⟩ := isError.chunkedResponse.asks.took kept front read
    exact ⟨rfl, rfl, rfl⟩
  transfer := by
    intro info' chunks head blocks isHead isBlocks r after response kept front read
    rw [← Layout.bytes_append] at front
    obtain ⟨rfl, _⟩ := (isError.transferred isHead isBlocks).asks.took kept front read
    exact reports_ofTransfer info' chunks info
  chunk := fun kept front read => (isError.chunk.asks.took kept front read).1
  stream := by
    intro s streams kept front
    have happens := Session.nextEvent_happens streams
    generalize s.nextEvent = outcome at happens ⊢
    -- A chunk that was read is the error, whatever comes of the way back to commands.
    cases happens with
    | block read => cases (isError.chunk.asks.took kept front read).1
    | concluded read =>
      have ends : Chunk.ofEnd _ = .ofEnd (some _) := (isError.chunk.asks.took kept front read).1
      obtain rfl := Chunk.ofEnd_injective ends
      exact ⟨by rintro _ ⟨⟩; rfl, .inl rfl⟩
    | unanswered read =>
      have ends : Chunk.ofEnd _ = .ofEnd (some _) := (isError.chunk.asks.took kept front read).1
      obtain rfl := Chunk.ofEnd_injective ends
      exact ⟨nofun, .inl rfl⟩
    | lost => exact ⟨nofun, .inr rfl⟩
  streamRefused := isError.openStream_isOnly
  uploadRefused := isError.write_isOnly

end ErrorLayout

namespace DaemonError

/-- All that stands before the detail in the line of an error. -/
def lead (e : DaemonError) : Text :=
  Status.err.word ++ ' ' :: (Decimal.ofNat e.code.toNat ++ [' '])

/-- The line of an error ends with its detail. -/
theorem line_info (e : DaemonError) : Status.err.line e.info = e.lead ++ e.detail := by
  -- Word, code and spaces are the lead of the line, and the detail is the rest of it.
  simp [Status.line, lead, info]

/-- Before the detail everything is plain and visible. -/
theorem lead_plain {e : DaemonError} {c : Char} (member : c ∈ e.lead) :
    32 ≤ c.toNat ∧ c.toNat < 0x80 := by
  -- The lead is three letters, a number and two spaces, and of a number every digit is plain.
  simp only [lead, Status.word, List.mem_append, List.mem_cons, List.not_mem_nil, or_false]
    at member
  rcases member with (rfl | rfl | rfl) | rfl | digit | rfl
  case inr.inr.inl =>
    have := Char.toNat_of_isDigit (Decimal.isDigit_of_mem_ofNat digit)
    omega
  all_goals decide

/-- A detail that fits into a line does so behind the code, too. -/
theorem safe_lead {e : DaemonError} (safe : Line.Safe e.detail) :
    Line.Safe (e.lead ++ e.detail) := by
  refine ⟨fun member => ?_, fun last => ?_⟩
  · rcases List.mem_append.mp member with inLead | inDetail
    · exact absurd (lead_plain inLead).1 (by decide)
    · exact safe.1 inDetail
  · rw [List.getLast?_append, Option.or_eq_some_iff] at last
    rcases last with inDetail | ⟨_, inLead⟩
    · exact safe.2 inDetail
    · -- Without a detail the line ends with a space.
      exact absurd (lead_plain (List.mem_of_getLast? inLead)).1 (by decide)

/-- An error with a detail that fits into a line is written as a line that reports it. -/
theorem encode_error {encoding : Encoding} {e : DaemonError} {said : Bytes}
    (encoded : encoding.encode e.detail = .ok said) (safe : Line.Safe e.detail)
    (short : e.lead.length + said.length ≤ Line.maxLength) :
    ∃ layout : Layout, ErrorLayout encoding e.info layout ∧ layout.Short ∧
      ∀ chunkSize, (Response.error e).encode encoding chunkSize = .ok layout.bytes := by
  -- The lead is plain, so in either encoding it takes as many bytes as it has characters.
  have plain : ∀ c ∈ e.lead, c.toNat < 0x80 := fun _ member => (lead_plain member).2
  have written := (Encoding.encode_plain_append plain).mpr ⟨said, encoded, rfl⟩
  obtain ⟨free, noReturn⟩ := safe_lead safe
  generalize raw_eq : (e.lead.map fun c => UInt8.ofNat c.toNat) ++ said = raw at written
  have isLine : LineBytes raw raw :=
    ⟨Encoding.feed_not_mem written free,
      if_neg (mt (Encoding.getLast?_carriageReturn written).mp noReturn)⟩
  -- Read back, the line says what it was made of.
  have verdict : StatusLine encoding .err e.info raw := by
    rw [← parseLine_decode, Encoding.decode_of_encode written, ← line_info]
    exact Status.parseLine_line _ _
  have sentinel : SentinelLayout [.line [46]] := .line ⟨by decide, rfl⟩
  refine ⟨_, .line (.line isLine verdict) sentinel, ?_, ?_⟩
  -- The sentinel is short by itself, so only the line of the error can be too long.
  · refine Layout.short_append.mpr ⟨?_, Layout.short_of_length_le (by decide)⟩
    rintro _ (_ | ⟨_, ⟨⟩⟩)
    rw [← raw_eq]
    simpa [Stretch.Short] using short
  · intro chunkSize
    rw [← line_info] at written
    exact Response.encode_lines_eq_ok.mpr
      ⟨_, [], Response.encodeLine_eq_ok.mpr ⟨raw, written, rfl⟩, rfl, rfl⟩

/-- An error line followed by the sentinel reports the error that its info says, whatever the info
and wherever the line comes: as a reply with lines or with data, in place of a chunk of a transfer,
in a stream, or in place of a stream or of the go-ahead for an upload. A line above the limit may
fail to be read, but no other error is read from it. An error with a detail that fits into a line is
written as such a line, and what is reported from it is the same error. -/
theorem reported (encoding : Encoding) :
    (∀ info layout, ErrorLayout encoding info layout →
      SoleIn encoding (.ofInfo info) layout.bytes ∧
      (layout.Short → ReportedBy encoding (.ofInfo info) layout.bytes)) ∧
    ∀ (code : UInt32) (detail : Text) (said : Bytes), encoding.encode detail = .ok said →
      '\n' ∉ detail → detail.getLast? ≠ some '\r' →
      (lead ⟨code, detail⟩).length + said.length ≤ Line.maxLength →
      ∃ wire, (∀ chunkSize buffer, (Response.error ⟨code, detail⟩).encodeInto encoding chunkSize
          buffer = (.ok (), buffer ++ wire)) ∧
        ReportedBy encoding ⟨code, detail⟩ wire := by
  refine ⟨fun info layout isError => ⟨isError.soleIn, isError.reportedBy⟩, ?_⟩
  intro code detail said encoded oneLine noReturn fits
  obtain ⟨layout, isError, short, written⟩ :=
    @encode_error encoding ⟨code, detail⟩ said encoded ⟨oneLine, noReturn⟩ fits
  refine ⟨layout.bytes, fun chunkSize => Response.puts_encodeInto (written chunkSize), ?_⟩
  -- The info of an error says the error.
  have reports := isError.reportedBy short
  rwa [ofInfo_info] at reports

/-- A connection over which an error comes, its code with a plus and a zero in front. -/
def padded : Connection where
  reader := ⟨[69, 82], ⟨[.bytes [82, 32, 43, 48, 55, 32, 49, 32, 120, 13, 10, 46] (by decide),
    .fault (.ofKind .interrupted), .bytes [10, 79] (by decide)], .silent⟩, .latin1⟩
  sink := .accepting
  settings := .usual
  health := .ready
  waitLimit? := Settings.usual.replyLimit?
  banner := []
  version := ⟨0, 1, 0⟩

/-- A reader that has some data at hand before the same error comes. -/
def transferring : Reader :=
  ⟨[79, 75, 10, 68, 65, 84, 65, 32, 49, 10, 65, 69, 82], padded.reader.source, .latin1⟩

/-- A code with a plus and a zero in front, and a detail that begins like a code, are one error in
place of a stream and behind the data of a transfer. An error without a detail is written with a
space at the end of its line, and reported as it was. -/
theorem reported_padded :
    (∃ after, Connection.openStream (.tail ['x']) padded
        = (.error (.daemon ⟨7, ['1', ' ', 'x']⟩), after)) ∧
    (∃ response after, Reader.readChunkedResponse transferring = (.ok response, after) ∧
      response.error? = some ⟨7, ['1', ' ', 'x']⟩ ∧ response.data = [65]) ∧
    ∃ wire, (∀ chunkSize buffer, (Response.error ⟨500, []⟩).encodeInto .utf8 chunkSize buffer
        = (.ok (), buffer ++ wire)) ∧ ReportedBy .utf8 ⟨500, []⟩ wire := by
  -- The line is written out byte for byte, with a plus and a zero in front of its code.
  have isError : ErrorLayout .latin1 ['+', '0', '7', ' ', '1', ' ', 'x']
      ([.line [69, 82, 82, 32, 43, 48, 55, 32, 49, 32, 120, 13]] ++ [.line [46]]) :=
    .line (.line ⟨by decide, rfl⟩ (.withInfo [43, 48, 55, 32, 49, 32, 120]))
      (.line ⟨by decide, rfl⟩)
  have same : ofInfo ['+', '0', '7', ' ', '1', ' ', 'x'] = ⟨7, ['1', ' ', 'x']⟩ := by decide
  have reports := ((reported .latin1).1 _ _ isError).2 (Layout.short_of_length_le (by decide))
  rw [same] at reports
  refine ⟨?_, ?_, (reported .utf8).2 500 [] [] rfl (by decide) (by decide) (by decide)⟩
  · obtain ⟨reader, refused, _⟩ :=
      @reports.streamRefused padded (.tail ['x']) _ [79] rfl rfl rfl rfl
    exact ⟨_, refused⟩
  · have head : StatusLayout .latin1 (.ok, []) [.line [79, 75]] := .line ⟨by decide, rfl⟩ .bare
    have one : HeaderLine 1 [68, 65, 84, 65, 32, 49] := ⟨_, Decimal.spells_ofNat 1, rfl⟩
    have first : ChunkLayout .latin1 (.data [65])
        [.line [68, 65, 84, 65, 32, 49], .counted [65]] := .data ⟨by decide, rfl⟩ one (by decide)
    obtain ⟨response, reported, prompt⟩ :=
      reports.transfer head (.block first .nothing) (Layout.short_of_length_le (by decide))
    obtain ⟨after, read, _⟩ := @prompt transferring [79] rfl rfl
    exact ⟨response, after, read, reported.error, reported.data⟩

end DaemonError
end AmigaRemote
