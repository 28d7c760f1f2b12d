import AmigaRemote.Proofs.Wire.Decoding
import AmigaRemote.Proofs.Wire.Fragmentation

/-! Frames laid out as the stretches they are read in: lines, and bytes that a header has counted.
What is read without failure is exactly one layout, taken from the front of what is unread. -/

namespace AmigaRemote

/-- What is read in one go. -/
inductive Stretch where
  /-- A line, here without its end. -/
  | line (raw : Bytes)
  /-- As many bytes as a header announces. -/
  | counted (bytes : Bytes)

namespace Stretch

/-- The bytes of a stretch, the end of a line included. -/
def bytes : Stretch → Bytes
  | line raw => raw ++ [Line.feed]
  | counted bytes => bytes

/-- Whether a stretch keeps to the limit of a line. Counted bytes are no line. -/
def Short : Stretch → Prop
  | line raw => raw.length ≤ Line.maxLength
  | counted _ => True

end Stretch

/-- The stretches of a frame in their order. -/
abbrev Layout := List Stretch

namespace Layout

/-- The bytes of a frame. -/
def bytes (layout : Layout) : Bytes :=
  layout.flatMap Stretch.bytes

/-- Whether every line of a frame keeps to the limit. -/
def Short (layout : Layout) : Prop :=
  ∀ stretch ∈ layout, stretch.Short

/-- Frames one behind the other have their bytes one behind the other. -/
theorem bytes_append (front back : Layout) : bytes (front ++ back) = bytes front ++ bytes back :=
  -- The bytes are those of the stretches, joined.
  List.flatMap_append

/-- The bytes of one stretch are those of the stretch. -/
theorem bytes_singleton (stretch : Stretch) : bytes [stretch] = stretch.bytes :=
  -- There is nothing to join.
  List.flatMap_singleton _ _

/-- The first stretch comes before the others. -/
theorem bytes_cons (stretch : Stretch) (layout : Layout) :
    bytes (stretch :: layout) = stretch.bytes ++ bytes layout :=
  -- As for two layouts.
  List.flatMap_cons

/-- Frames one behind the other keep to the limit if each of them does. -/
theorem short_append {front back : Layout} : Short (front ++ back) ↔ Short front ∧ Short back :=
  -- The limit is one on each stretch.
  List.forall_mem_append

/-- A frame of no more bytes than a line may have keeps to the limit. -/
theorem short_of_length_le {layout : Layout} (few : layout.bytes.length ≤ Line.maxLength) :
    layout.Short := by
  intro stretch member
  -- Only lines have a limit.
  cases stretch with
  | counted _ => trivial
  | line raw =>
    -- The line is a part of the frame.
    have part : (raw ++ [Line.feed]).Sublist layout.bytes :=
      List.sublist_flatten_of_mem (List.mem_map_of_mem (f := Stretch.bytes) member)
    have := part.length_le
    rw [List.length_append] at this
    exact Nat.le_trans (Nat.le_add_right _ _) (Nat.le_trans this few)

end Layout

/-- The bytes of a line, which goes up to its end. A carriage return before that is no part of what
the line says. -/
structure LineBytes (raw said : Bytes) : Prop where
  free : Line.feed ∉ raw
  said : dropCarriageReturn raw = said

/-- A status line. -/
inductive StatusLayout (encoding : Encoding) : Status × Text → Layout → Prop where
  | line {status : Status} {info : Text} {raw said : Bytes} (isLine : LineBytes raw said)
    (verdict : StatusLine encoding status info said) :
    StatusLayout encoding (status, info) [.line raw]

/-- The sentinel. -/
inductive SentinelLayout : Layout → Prop where
  | line {raw : Bytes} (isLine : LineBytes raw Line.sentinel.plainBytes) : SentinelLayout [.line raw]

/-- The lines of a payload and the sentinel. -/
inductive PayloadLayout (encoding : Encoding) : List Text → Layout → Prop where
  | sentinel {layout : Layout} (last : SentinelLayout layout) : PayloadLayout encoding [] layout
  -- A dot alone ends the payload, so it is no line of it before a dot is taken away.
  | line {lines : List Text} {raw said : Bytes} {rest : Layout} (isLine : LineBytes raw said)
    (notLast : said ≠ Line.sentinel.plainBytes) (tail : PayloadLayout encoding lines rest) :
    PayloadLayout encoding (Line.unstuff (encoding.decode said) :: lines) (.line raw :: rest)

/-- A response that carries lines. -/
inductive ResponseLayout (encoding : Encoding) : Response → Layout → Prop where
  | lines {status : Status} {info : Text} {lines : List Text} {first rest : Layout}
    (head : StatusLayout encoding (status, info) first)
    (payload : PayloadLayout encoding lines rest) :
    ResponseLayout encoding ⟨status, info, .lines lines⟩ (first ++ rest)

/-- One step of a transfer: a header and as many bytes as it announces, the end line and the
sentinel, or an error line and the sentinel. -/
inductive ChunkLayout (encoding : Encoding) : Chunk → Layout → Prop where
  -- The bytes of the data are counted and not looked at.
  | data {raw said body : Bytes} (isLine : LineBytes raw said) (header : HeaderLine body.length said)
    (small : body.length ≤ Chunk.maxSize) :
    ChunkLayout encoding (.data body) [.line raw, .counted body]
  | ended {raw : Bytes} {last : Layout} (isLine : LineBytes raw Chunk.endLine.plainBytes)
    (sentinel : SentinelLayout last) :
    ChunkLayout encoding .ended (.line raw :: last)
  | aborted {info : Text} {first last : Layout} (head : StatusLayout encoding (.err, info) first)
    (sentinel : SentinelLayout last) :
    ChunkLayout encoding (.aborted (.ofInfo info)) (first ++ last)

/-- The steps of a transfer up to its end, or up to the error that takes its place. -/
inductive TransferLayout (encoding : Encoding) :
    List Bytes → Option DaemonError → Layout → Prop where
  | ended {layout : Layout} (last : ChunkLayout encoding .ended layout) :
    TransferLayout encoding [] none layout
  | aborted {e : DaemonError} {layout : Layout} (last : ChunkLayout encoding (.aborted e) layout) :
    TransferLayout encoding [] (some e) layout
  | chunk {body : Bytes} {chunks : List Bytes} {why : Option DaemonError} {first rest : Layout}
    (head : ChunkLayout encoding (.data body) first)
    (tail : TransferLayout encoding chunks why rest) :
    TransferLayout encoding (body :: chunks) why (first ++ rest)

/-- What a transfer comes to: all of its data, or an error that keeps the data before it. -/
def Response.ofTransfer (info : Text) (chunks : List Bytes) : Option DaemonError → Response
  | none => .okBinary info chunks.flatten
  -- The error is written anew, from its code and its detail.
  | some e => ⟨.err, e.info, .binary chunks.flatten⟩

/-- A response that carries data: an error with its lines, or a transfer. -/
inductive ChunkedLayout (encoding : Encoding) : Response → Layout → Prop where
  | refused {info : Text} {lines : List Text} {first rest : Layout}
    (head : StatusLayout encoding (.err, info) first)
    (payload : PayloadLayout encoding lines rest) :
    ChunkedLayout encoding ⟨.err, info, .lines lines⟩ (first ++ rest)
  | transferred {info : Text} {chunks : List Bytes} {why : Option DaemonError}
    {first rest : Layout} (head : StatusLayout encoding (.ok, info) first)
    (transfer : TransferLayout encoding chunks why rest) :
    ChunkedLayout encoding (.ofTransfer info chunks why) (first ++ rest)

/-- What a request reads for an answer. -/
inductive ReadRequest.Lays (encoding : Encoding) : ReadRequest → ReadAnswer → Layout → Prop where
  | line {raw said : Bytes} (isLine : LineBytes raw said) :
    Lays encoding .line (.text (encoding.decode said)) [.line raw]
  | lineBytes {raw said : Bytes} (isLine : LineBytes raw said) :
    Lays encoding .lineBytes (.bytes said) [.line raw]
  | exact {bytes : Bytes} (small : bytes.length ≤ Chunk.maxSize) :
    Lays encoding (.exact bytes.length) (.bytes bytes) [.counted bytes]
  | status {status : Status} {info : Text} {layout : Layout}
    (isStatus : StatusLayout encoding (status, info) layout) :
    Lays encoding .status (.status status info) layout
  | lines {lines : List Text} {layout : Layout} (payload : PayloadLayout encoding lines layout) :
    Lays encoding .lines (.lines lines) layout
  | sentinel {layout : Layout} (isSentinel : SentinelLayout layout) :
    Lays encoding .sentinel .sentinel layout
  | chunk {chunk : Chunk} {layout : Layout} (isChunk : ChunkLayout encoding chunk layout) :
    Lays encoding .chunk (.chunk chunk) layout
  | response {response : Response} {layout : Layout}
    (isResponse : ResponseLayout encoding response layout) :
    Lays encoding .response (.response response) layout
  | chunkedResponse {response : Response} {layout : Layout}
    (isResponse : ChunkedLayout encoding response layout) :
    Lays encoding .chunkedResponse (.response response) layout

/-- The bytes of the layouts of a kind. -/
def Laid {α : Type} (Lays : Encoding → α → Layout → Prop) (encoding : Encoding) (a : α)
    (frame : Bytes) : Prop :=
  ∃ layout : Layout, Lays encoding a layout ∧ layout.bytes = frame

/-- What is made of what was read takes nothing more. -/
theorem Takes.map {α β : Type} {reading : Reading α} {make : α → β}
    {Frame : Encoding → α → Bytes → Prop} {Made : Encoding → β → Bytes → Prop}
    (takes : Takes reading Frame)
    (made : ∀ {encoding a frame}, Frame encoding a frame → Made encoding (make a) frame) :
    Takes (do return make (← reading)) Made := by
  intro r after b read
  obtain ⟨a, next, first, done⟩ := Step.bind_eq_ok.mp read
  -- The reader is left where the first part left it.
  cases done
  obtain ⟨frame, isFrame, front, kept⟩ := takes first
  exact ⟨frame, made isFrame, front, kept⟩

namespace LineFrame

variable {encoding : Encoding} {text : Text} {frame : Bytes}

/-- A line says some bytes, which are read as its text. -/
theorem lineBytes (line : LineFrame encoding text frame) :
    ∃ raw said, LineBytes raw said ∧ encoding.decode said = text ∧ Layout.bytes [.line raw] = frame := by
  -- What it says is the raw line without its return.
  obtain ⟨raw, free, decoded, rfl⟩ := line
  exact ⟨raw, _, ⟨free, rfl⟩, decoded, Layout.bytes_singleton _⟩

/-- The sentinel says a dot. -/
theorem sentinel_laid (line : LineFrame encoding Line.sentinel frame) :
    ∃ layout : Layout, SentinelLayout layout ∧ layout.bytes = frame := by
  obtain ⟨raw, said, isLine, decoded, same⟩ := line.lineBytes
  -- No other bytes than those of a dot are read as the sentinel.
  rw [Encoding.decode_eq_sentinel] at decoded
  subst decoded
  exact ⟨_, .line isLine, same⟩

end LineFrame

/-- A status line is laid out as one line. -/
theorem StatusFrame.laid {encoding : Encoding} {parts : Status × Text} {frame : Bytes}
    (status : StatusFrame encoding parts frame) : Laid StatusLayout encoding parts frame := by
  -- The line that parses as a status is laid out as that line.
  obtain ⟨line, head, parsed⟩ := status
  obtain ⟨raw, said, isLine, rfl, same⟩ := head.lineBytes
  exact ⟨_, .line isLine (parseLine_decode.mp parsed), same⟩

/-- A payload is laid out line by line. -/
theorem PayloadFrame.laid {encoding : Encoding} {lines : List Text} {frame : Bytes}
    (payload : PayloadFrame encoding lines frame) : Laid PayloadLayout encoding lines frame := by
  -- The induction is on the lines, each of which goes in front of the layout of the others.
  induction payload with
  | sentinel last =>
    obtain ⟨layout, isSentinel, same⟩ := last.sentinel_laid
    exact ⟨layout, .sentinel isSentinel, same⟩
  | line head notLast tail ih =>
    obtain ⟨raw, said, isLine, rfl, same⟩ := head.lineBytes
    obtain ⟨rest, isPayload, same'⟩ := ih
    rw [ne_eq, Encoding.decode_eq_sentinel] at notLast
    refine ⟨.line raw :: rest, .line isLine notLast isPayload, ?_⟩
    rw [← List.singleton_append, Layout.bytes_append, same, same']

/-- A response that carries lines is laid out as its status line and its payload. -/
theorem ResponseFrame.laid {encoding : Encoding} {response : Response} {frame : Bytes}
    (isResponse : ResponseFrame encoding response frame) :
    Laid ResponseLayout encoding response frame := by
  -- The two frames are laid out, and the layouts are put one behind the other.
  cases isResponse with
  | lines head payload =>
    obtain ⟨first, isStatus, same⟩ := head.laid
    obtain ⟨rest, isPayload, same'⟩ := payload.laid
    exact ⟨first ++ rest, .lines isStatus isPayload, by rw [Layout.bytes_append, same, same']⟩

/-- A step of a transfer is laid out as its lines and its data, if the data is within the limit. -/
theorem ChunkFrame.laid {encoding : Encoding} {chunk : Chunk} {frame : Bytes}
    (isChunk : ChunkFrame encoding chunk frame)
    (small : ∀ bytes, chunk = .data bytes → bytes.length ≤ Chunk.maxSize) :
    Laid ChunkLayout encoding chunk frame := by
  cases isChunk with
  | data head announced =>
    -- The header gives the number of bytes, and that they are few is known apart from it.
    obtain ⟨raw, said, isLine, rfl, same⟩ := head.lineBytes
    refine ⟨_, .data isLine (parseHeader_decode.mp announced).1 (small _ rfl), ?_⟩
    rw [← List.singleton_append, Layout.bytes_append, same, Layout.bytes_singleton]
    rfl
  | ended head sentinel =>
    obtain ⟨raw, said, isLine, decoded, same⟩ := head.lineBytes
    rw [Encoding.decode_eq_endLine] at decoded
    subst decoded
    obtain ⟨last, isSentinel, same'⟩ := sentinel.sentinel_laid
    refine ⟨_, .ended isLine isSentinel, ?_⟩
    rw [← List.singleton_append, Layout.bytes_append, same, same']
  | aborted refusal =>
    obtain ⟨head, sentinel⟩ := refusal
    obtain ⟨first, isStatus, same⟩ := head.laid
    obtain ⟨last, isSentinel, same'⟩ := sentinel.sentinel_laid
    exact ⟨_, .aborted isStatus isSentinel, by rw [Layout.bytes_append, same, same']⟩

namespace Reader

/-- The bytes of a line are read whole. -/
theorem readLineBytes_takes :
    Takes readLineBytes fun _ said frame =>
      ∃ raw, LineBytes raw said ∧ Layout.bytes [.line raw] = frame := by
  intro r after said read
  -- The reading takes the raw line with its line feed, and keeps the encoding.
  obtain ⟨raw, free, same, front⟩ := readLineBytes_ok read
  have kept := readLineBytes_encoding r
  rw [read] at kept
  refine ⟨_, ⟨raw, ⟨free, same⟩, rfl⟩, ?_, kept⟩
  simp [front, Layout.bytes_singleton, Stretch.bytes]

/-- Counted bytes that were read are as many as were asked for, and no more than may be. -/
theorem readExact_takes (length : Nat) :
    Takes (readExact length) fun _ bytes frame =>
      bytes = frame ∧ bytes.length = length ∧ length ≤ Chunk.maxSize := by
  intro r after bytes read
  have many := readExact_length read
  have kept := readExact_encoding r length
  rw [read] at kept
  refine ⟨bytes, ⟨rfl, many, ?_⟩, readExact_ok read, kept⟩
  -- More bytes than a chunk may have are refused.
  refine Decidable.byContradiction fun large => ?_
  simp only [readExact, if_pos (Nat.lt_of_not_le large)] at read
  cases read

/-- A chunk of data that was read is within the limit. -/
theorem readChunk_small {r after : Reader} {bytes : Bytes}
    (read : readChunk r = (.ok (.data bytes), after)) : bytes.length ≤ Chunk.maxSize := by
  obtain ⟨line, next, first, rest⟩ := Step.bind_eq_ok.mp read
  obtain ⟨header, same, parsed, rest⟩ := Step.bind_eq_ok.mp rest
  cases header with
  | some length =>
    obtain ⟨body, last, counted, done⟩ := Step.bind_eq_ok.mp rest
    cases done
    -- A header may announce more, but then its bytes are not read.
    obtain ⟨_, ⟨_, many, small⟩, _⟩ := readExact_takes length counted
    exact many ▸ small
  | none =>
    -- Without a header no data is read.
    by_cases isEnd : line = Chunk.endLine
    · simp only [isEnd, if_true] at rest
      obtain ⟨_, last, _, done⟩ := Step.bind_eq_ok.mp rest
      cases done
    · simp only [isEnd, if_false] at rest
      cases status : Status.parseLine line with
      | error e => simp [status] at rest
      | ok parts =>
        rcases parts with ⟨_ | _, info⟩
        · simp [status] at rest
        · simp only [status] at rest
          obtain ⟨_, last, _, done⟩ := Step.bind_eq_ok.mp rest
          cases done

/-- A step of a transfer is read as it is laid out. -/
theorem readChunk_lays : Takes readChunk (Laid ChunkLayout) := by
  intro r after chunk read
  -- A body is laid out only if it is no larger than allowed, which the reading has checked.
  obtain ⟨frame, isChunk, front, kept⟩ := readChunk_takes read
  refine ⟨frame, isChunk.laid ?_, front, kept⟩
  rintro bytes rfl
  exact readChunk_small read

/-- A transfer is read as it is laid out, behind the chunks at hand. -/
theorem readTransferAfter_lays (info : Text) (chunks : List Bytes) :
    Takes (readTransferAfter info chunks) fun encoding response frame =>
      ∃ more why, response = .ofTransfer info (chunks.reverse ++ more) why ∧
        ∃ layout, TransferLayout encoding more why layout ∧ layout.bytes = frame := by
  intro r after response read
  -- Every chunk of data moves to those at hand.
  fun_induction readTransferAfter info chunks r with
  | case1 => simp at read
  | case2 chunks r bytes next found shorter ih =>
    obtain ⟨_, ⟨first, head, rfl⟩, front, kept⟩ := readChunk_lays found
    obtain ⟨_, ⟨more, why, same, rest, tail, rfl⟩, front', kept'⟩ := ih read
    rw [kept] at tail
    refine ⟨_, ⟨bytes :: more, why, ?_, _, .chunk head tail, rfl⟩, ?_, kept'.trans kept⟩
    · simpa using same
    · rw [front, front', Layout.bytes_append, List.append_assoc]
  | case3 chunks r next found =>
    cases read
    obtain ⟨frame, ⟨layout, last, same⟩, front, kept⟩ := readChunk_lays found
    exact ⟨frame, ⟨[], none, by simp [Response.ofTransfer], layout, .ended last, same⟩, front, kept⟩
  | case4 chunks r e next found =>
    cases read
    obtain ⟨frame, ⟨layout, last, same⟩, front, kept⟩ := readChunk_lays found
    exact ⟨frame, ⟨[], some e, by simp [Response.ofTransfer], layout, .aborted last, same⟩, front,
      kept⟩

/-- A response that carries data is read as it is laid out. -/
theorem readChunkedResponse_lays : Takes readChunkedResponse (Laid ChunkedLayout) := by
  intro r after response read
  obtain ⟨⟨status, info⟩, next, first, rest⟩ := Step.bind_eq_ok.mp read
  obtain ⟨_, isStatus, front, kept⟩ := readStatus_takes first
  obtain ⟨head, isHead, rfl⟩ := isStatus.laid
  -- An error carries lines, and a success a transfer.
  cases status with
  | err =>
    obtain ⟨lines, last, second, done⟩ := Step.bind_eq_ok.mp rest
    cases done
    obtain ⟨_, isFrame, front', kept'⟩ := readLines_takes second
    rw [kept] at isFrame
    obtain ⟨payload, isPayload, rfl⟩ := isFrame.laid
    exact ⟨_, ⟨_, .refused isHead isPayload, Layout.bytes_append _ _⟩,
      by rw [front, front', List.append_assoc], kept'.trans kept⟩
  | ok =>
    -- At the beginning no chunks are at hand.
    obtain ⟨_, ⟨more, why, same, transfer, isTransfer, rfl⟩, front', kept'⟩ :=
      readTransferAfter_lays info [] rest
    rw [kept] at isTransfer
    rw [List.reverse_nil, List.nil_append] at same
    subst same
    exact ⟨_, ⟨_, .transferred isHead isTransfer, Layout.bytes_append _ _⟩,
      by rw [front, front', List.append_assoc], kept'.trans kept⟩

end Reader

/-- What is read for an answer is laid out as the answer says. -/
theorem ReadRequest.perform_lays (request : ReadRequest) :
    Takes request.perform (Laid fun encoding => request.Lays encoding) := by
  -- Each request is a reading whose frames are laid out, and an answer made of its result.
  cases request with
  | line =>
    refine Reader.readLine_takes.map fun head => ?_
    obtain ⟨_, _, isLine, rfl, same⟩ := head.lineBytes
    exact ⟨_, .line isLine, same⟩
  | lineBytes =>
    refine Reader.readLineBytes_takes.map fun ⟨raw, isLine, same⟩ => ?_
    exact ⟨[.line raw], .lineBytes isLine, same⟩
  | exact length =>
    refine (Reader.readExact_takes length).map fun ⟨same, many, small⟩ => ?_
    subst same many
    exact ⟨_, .exact small, Layout.bytes_singleton _⟩
  | status =>
    refine Reader.readStatus_takes.map fun isStatus => ?_
    obtain ⟨layout, isStatus, same⟩ := isStatus.laid
    exact ⟨layout, .status isStatus, same⟩
  | lines =>
    refine Reader.readLines_takes.map fun payload => ?_
    obtain ⟨layout, payload, same⟩ := payload.laid
    exact ⟨layout, .lines payload, same⟩
  | sentinel =>
    refine Reader.expectSentinel_takes.map fun isSentinel => ?_
    obtain ⟨layout, isSentinel, same⟩ := isSentinel.sentinel_laid
    exact ⟨layout, .sentinel isSentinel, same⟩
  | chunk =>
    refine Reader.readChunk_lays.map fun ⟨layout, isChunk, same⟩ => ?_
    exact ⟨layout, .chunk isChunk, same⟩
  | response =>
    refine Reader.readResponse_takes.map fun isResponse => ?_
    obtain ⟨layout, isResponse, same⟩ := isResponse.laid
    exact ⟨layout, .response isResponse, same⟩
  | chunkedResponse =>
    refine Reader.readChunkedResponse_lays.map fun ⟨layout, isResponse, same⟩ => ?_
    exact ⟨layout, .chunkedResponse isResponse, same⟩

end AmigaRemote
