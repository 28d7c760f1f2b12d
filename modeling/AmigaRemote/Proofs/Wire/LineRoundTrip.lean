import AmigaRemote.Proofs.Except
import AmigaRemote.Proofs.Wire.Arrival
import AmigaRemote.Proofs.Wire.Lines
import AmigaRemote.Proofs.Wire.Unambiguity

/-! Responses that carry lines read back as they were exactly if their texts fit into lines. -/

namespace AmigaRemote

/-- A written line is its bytes and a line end. -/
theorem Response.encodeLine_eq_ok {encoding : Encoding} {text : Text} {bytes : Bytes} :
    encodeLine encoding text = .ok bytes ↔
      ∃ raw, encoding.encode text = .ok raw ∧ bytes = raw ++ [Line.feed] := by
  unfold encodeLine
  rw [Except.bind_eq_ok]
  -- Only the text can be without bytes.
  constructor
  · rintro ⟨raw, written, same⟩
    exact ⟨raw, written, (Except.ok.inj same).symm⟩
  · rintro ⟨raw, written, rfl⟩
    exact ⟨raw, written, rfl⟩

/-- A written line has one line end more than its text. -/
theorem Response.count_encodeLine {encoding : Encoding} {text : Text} {bytes : Bytes}
    (encoded : encodeLine encoding text = .ok bytes) :
    bytes.count Line.feed = text.count '\n' + 1 := by
  -- The encoding keeps the line ends of the text, and one is put behind.
  obtain ⟨raw, written, rfl⟩ := encodeLine_eq_ok.mp encoded
  rw [List.count_append, Encoding.count_feed written]
  rfl

/-- A written text without a line end makes one line, which reads as what arrives of the text. -/
theorem Response.lineFrame_of_encodeLine {encoding : Encoding} {text : Text} {bytes : Bytes}
    (encoded : encodeLine encoding text = .ok bytes) (oneLine : '\n' ∉ text) :
    LineFrame encoding (Line.received text) bytes := by
  obtain ⟨raw, written, rfl⟩ := encodeLine_eq_ok.mp encoded
  -- The bytes have a line end only where the text has one.
  exact ⟨raw, Encoding.feed_not_mem written oneLine, Encoding.decode_dropCarriageReturn written,
    rfl⟩

/-- A line of plain characters is read as it was written. -/
theorem lineFrame_plainLine {encoding : Encoding} {text : Text}
    (plain : ∀ c ∈ text, c.toNat < 0x80) (safe : Line.Safe text) :
    LineFrame encoding text (Chunk.plainLine text) := by
  -- Plain text has the same bytes in both encodings.
  have encoded : Response.encodeLine encoding text = .ok (Chunk.plainLine text) :=
    Response.encodeLine_eq_ok.mpr ⟨_, Encoding.encode_of_plain plain, rfl⟩
  have frame := Response.lineFrame_of_encodeLine encoded safe.1
  rwa [Line.received_eq_self.mpr safe.2] at frame

/-- The sentinel as it is sent is one line. -/
theorem lineFrame_sentinel (encoding : Encoding) :
    LineFrame encoding Line.sentinel (Chunk.plainLine Line.sentinel) :=
  -- A dot is plain and no line end.
  lineFrame_plainLine (by simp [Line.sentinel]) (by decide)

/-- A frame of a line holds one line end. -/
theorem LineFrame.count {encoding : Encoding} {text : Text} {frame : Bytes}
    (line : LineFrame encoding text frame) : frame.count Line.feed = 1 := by
  -- The raw line has none, so that the one behind it is the only one.
  obtain ⟨raw, free, _, rfl⟩ := line
  rw [List.count_append, List.count_eq_zero_of_not_mem free]
  rfl

/-- A frame of a payload holds a line end for each line and one for the sentinel. -/
theorem PayloadFrame.count {encoding : Encoding} {lines : List Text} {frame : Bytes}
    (payload : PayloadFrame encoding lines frame) :
    frame.count Line.feed = lines.length + 1 := by
  -- Each line brings its own line end, and the sentinel the last one.
  induction payload with
  | sentinel last => exact last.count
  | line head _ _ ih =>
    rw [List.count_append, head.count, ih, List.length_cons]
    omega

namespace Response

/-- The lines of a payload as they are sent, one after the other. -/
abbrev encodeLines (encoding : Encoding) (lines : List Text) : Except WireError (List Bytes) :=
  lines.mapM fun line => encodeLine encoding (Line.stuff line)

/-- The first payload line is written before the others. -/
theorem encodeLines_cons {encoding : Encoding} {line : Text} {lines : List Text}
    {parts : List Bytes} :
    encodeLines encoding (line :: lines) = .ok parts ↔
      ∃ first others, encodeLine encoding (Line.stuff line) = .ok first ∧
        encodeLines encoding lines = .ok others ∧ parts = first :: others :=
  -- The lines are written one by one.
  Except.mapM_cons_eq_ok

/-- A response that carries lines is written as its status line, its lines and the sentinel. -/
theorem encode_lines_eq_ok {encoding : Encoding} {chunkSize : Nat} {status : Status} {info : Text}
    {lines : List Text} {bytes : Bytes} :
    encode encoding chunkSize ⟨status, info, .lines lines⟩ = .ok bytes ↔
      ∃ first parts, encodeLine encoding (status.line info) = .ok first ∧
        encodeLines encoding lines = .ok parts ∧
        bytes = first ++ (parts.flatten ++ Chunk.plainLine Line.sentinel) := by
  have payload : encodePayload encoding chunkSize ⟨status, info, .lines lines⟩
      = encodeLines encoding lines >>= fun parts => pure parts.flatten := by
    cases status <;> rfl
  simp only [encode, payload, Except.bind_eq_ok]
  -- The parts are written in order, and each of them has to succeed.
  constructor
  · rintro ⟨first, head, _, ⟨parts, tail, same⟩, all⟩
    cases same
    cases all
    exact ⟨first, parts, head, tail, List.append_assoc _ _ _⟩
  · rintro ⟨first, parts, head, tail, rfl⟩
    exact ⟨first, head, _, ⟨parts, tail, rfl⟩, congrArg _ (List.append_assoc _ _ _)⟩

/-- A response whose texts have bytes has bytes. -/
theorem exists_encode_lines {encoding : Encoding} {status : Status} {info : Text}
    {lines : List Text} (chunkSize : Nat) (infoWritten : ∃ raw, encoding.encode info = .ok raw)
    (linesWritten : ∀ line ∈ lines, ∃ raw, encoding.encode line = .ok raw) :
    ∃ bytes, encode encoding chunkSize ⟨status, info, .lines lines⟩ = .ok bytes := by
  -- All that is added to the texts is plain.
  have head : ∃ raw, encoding.encode (status.line info) = .ok raw := by
    unfold Status.line
    split
    · exact ⟨_, Encoding.encode_of_plain status.word_plain⟩
    · apply Encoding.exists_encode_plain_append status.word_plain
      exact Encoding.exists_encode_plain_append (List.forall_mem_singleton.mpr (by decide))
        infoWritten
  have tail : ∀ line ∈ lines, ∃ part, encodeLine encoding (Line.stuff line) = .ok part := by
    intro line member
    have stuffed : ∃ raw, encoding.encode (Line.stuff line) = .ok raw := by
      unfold Line.stuff
      split
      · exact Encoding.exists_encode_plain_append (List.forall_mem_singleton.mpr (by decide))
          (linesWritten _ member)
      · exact linesWritten line member
    obtain ⟨raw, written⟩ := stuffed
    exact ⟨_, encodeLine_eq_ok.mpr ⟨raw, written, rfl⟩⟩
  obtain ⟨raw, written⟩ := head
  obtain ⟨parts, others⟩ := Except.exists_mapM_eq_ok.mpr tail
  exact ⟨_, encode_lines_eq_ok.mpr
    ⟨_, parts, encodeLine_eq_ok.mpr ⟨raw, written, rfl⟩, others, rfl⟩⟩

/-- Written payload lines have as many line ends as lines, and those of their texts. -/
theorem count_encodeLines {encoding : Encoding} {lines : List Text} {parts : List Bytes}
    (encoded : encodeLines encoding lines = .ok parts) :
    parts.flatten.count Line.feed = lines.length + lines.flatten.count '\n' := by
  -- The line ends of the first line are counted apart from those of the others.
  induction lines generalizing parts with
  | nil =>
    cases encoded
    rfl
  | cons line lines ih =>
    obtain ⟨first, others, head, tail, rfl⟩ := encodeLines_cons.mp encoded
    rw [List.flatten_cons, List.count_append, ih tail, count_encodeLine head, Line.count_stuff,
      List.length_cons, List.flatten_cons, List.count_append]
    omega

/-- Written payload lines without line ends in their texts make a payload, which reads as what
arrives of each of them. -/
theorem payloadFrame_of_encodeLines {encoding : Encoding} {lines : List Text} {parts : List Bytes}
    (encoded : encodeLines encoding lines = .ok parts) (oneLine : ∀ line ∈ lines, '\n' ∉ line) :
    PayloadFrame encoding (lines.map Line.received)
      (parts.flatten ++ Chunk.plainLine Line.sentinel) := by
  induction lines generalizing parts with
  | nil =>
    cases encoded
    exact .sentinel (lineFrame_sentinel encoding)
  | cons line lines ih =>
    obtain ⟨first, others, head, tail, rfl⟩ := encodeLines_cons.mp encoded
    -- Added dots are no line ends.
    have free : '\n' ∉ Line.stuff line := by
      rw [← List.count_eq_zero, Line.count_stuff, List.count_eq_zero]
      exact oneLine line (by simp)
    have head := lineFrame_of_encodeLine head free
    rw [Line.received_stuff] at head
    have payload := ih tail fun other member => oneLine other (by simp [member])
    -- The added dot keeps the line apart from the sentinel, and is taken away after that.
    have whole := PayloadFrame.line head (Line.stuff_ne_sentinel _) payload
    rw [Line.unstuff_stuff] at whole
    simpa using whole

/-- A written response without line ends in its texts is the frame of what arrives of them. -/
theorem responseFrame_of_encode {encoding : Encoding} {chunkSize : Nat} {status : Status}
    {info : Text} {lines : List Text} {bytes : Bytes}
    (encoded : encode encoding chunkSize ⟨status, info, .lines lines⟩ = .ok bytes)
    (infoLine : '\n' ∉ info) (oneLine : ∀ line ∈ lines, '\n' ∉ line) :
    ResponseFrame encoding ⟨status, Line.received info, .lines (lines.map Line.received)⟩
      bytes := by
  obtain ⟨first, parts, head, tail, rfl⟩ := encode_lines_eq_ok.mp encoded
  -- The word of the status brings no line end of its own.
  have free : '\n' ∉ status.line info := by
    rw [← List.count_eq_zero, Status.count_line, List.count_eq_zero]
    exact infoLine
  exact .lines ⟨_, lineFrame_of_encodeLine head free, Status.parseLine_received status info⟩
    (payloadFrame_of_encodeLines tail oneLine)

/-- A written response is the frame of a response with as many lines only if its texts have no
line ends. -/
theorem oneLine_of_responseFrame {encoding : Encoding} {chunkSize : Nat} {status : Status}
    {info : Text} {lines : List Text} {bytes : Bytes}
    (encoded : encode encoding chunkSize ⟨status, info, .lines lines⟩ = .ok bytes)
    (frame : ResponseFrame encoding ⟨status, info, .lines lines⟩ bytes) :
    '\n' ∉ info ∧ ∀ line ∈ lines, '\n' ∉ line := by
  obtain ⟨first, parts, head, tail, rfl⟩ := encode_lines_eq_ok.mp encoded
  -- The frame has room for one line end after each text and none within.
  have written : (first ++ (parts.flatten ++ Chunk.plainLine Line.sentinel)).count Line.feed
      = info.count '\n' + 1 + (lines.length + lines.flatten.count '\n' + 1) := by
    rw [List.count_append, List.count_append, count_encodeLine head, Status.count_line,
      count_encodeLines tail]
    rfl
  have room : (first ++ (parts.flatten ++ Chunk.plainLine Line.sentinel)).count Line.feed
      = 1 + (lines.length + 1) := by
    generalize first ++ (parts.flatten ++ Chunk.plainLine Line.sentinel) = bytes at frame
    cases frame with
    | lines statusFrame payload =>
      obtain ⟨_, isLine, _⟩ := statusFrame
      rw [List.count_append, isLine.count, payload.count]
  have noneInInfo : info.count '\n' = 0 := by omega
  have noneInLines : lines.flatten.count '\n' = 0 := by omega
  refine ⟨List.count_eq_zero.mp noneInInfo, fun line member within => ?_⟩
  exact List.count_eq_zero.mp noneInLines (List.mem_flatten.mpr ⟨line, member, within⟩)

end Response

namespace Reader

variable {encoding : Encoding} {chunkSize : Nat} {status : Status} {info : Text}
  {lines : List Text} {bytes rest : Bytes} {r : Reader}

/-- A written response without line ends in its texts is read as what arrives of them, and nothing
behind it is. -/
theorem readResponse_received
    (encoded : Response.encode encoding chunkSize ⟨status, info, .lines lines⟩ = .ok bytes)
    (within : Line.Within bytes) (kept : r.encoding = encoding) (whole : r.unread = bytes ++ rest)
    (comes : bytes <+: r.coming) (infoLine : '\n' ∉ info) (oneLine : ∀ line ∈ lines, '\n' ∉ line) :
    ∃ after,
      readResponse r = (.ok ⟨status, Line.received info, .lines (lines.map Line.received)⟩, after) ∧
        after.unread = rest := by
  -- The bytes are a frame, and a frame that comes is read.
  have frame := Response.responseFrame_of_encode encoded infoLine oneLine
  exact (readResponse_arrives frame within).readsBack kept whole comes

/-- A written response is read as it was only if each of its texts fits into a line. -/
theorem safe_of_readResponse {after : Reader}
    (encoded : Response.encode encoding chunkSize ⟨status, info, .lines lines⟩ = .ok bytes)
    (kept : r.encoding = encoding) (whole : r.unread = bytes ++ rest)
    (read : readResponse r = (.ok ⟨status, info, .lines lines⟩, after))
    (behind : after.unread = rest) :
    Line.Safe info ∧ ∀ line ∈ lines, Line.Safe line := by
  subst kept
  obtain ⟨taken, isFrame, front, _⟩ := readResponse_takes read
  rw [whole, behind] at front
  have same : bytes = taken := List.append_cancel_right front
  subst same
  obtain ⟨infoLine, oneLine⟩ := Response.oneLine_of_responseFrame encoded isFrame
  -- As what arrives of the texts is what they are, none of them loses a carriage return.
  have frame := Response.responseFrame_of_encode encoded infoLine oneLine
  obtain ⟨arrived, _, _⟩ := ResponseFrame.unambiguous frame isFrame front
  simp only [Response.mk.injEq, Payload.lines.injEq, true_and] at arrived
  obtain ⟨infoSame, linesSame⟩ := arrived
  exact ⟨⟨infoLine, Line.received_eq_self.mp infoSame⟩, fun line member =>
    ⟨oneLine line member, Line.map_received_eq_self.mp linesSame line member⟩⟩

/-- A response that carries lines is read as it was written, with everything behind it unread,
exactly if each of its texts fits into a line. Whatever dots its lines begin with, all that texts
without line ends can lose are the carriage returns they end in. -/
theorem readResponse_encode {response : Response}
    (carries : response.payload = .lines lines)
    (encoded : response.encode encoding chunkSize = .ok bytes)
    (within : Line.Within bytes) (kept : r.encoding = encoding) (whole : r.unread = bytes ++ rest)
    (comes : bytes <+: r.coming) :
    ((∃ after, readResponse r = (.ok response, after) ∧ after.unread = rest) ↔
      Line.Safe response.info ∧ ∀ line ∈ lines, Line.Safe line) ∧
    ('\n' ∉ response.info → (∀ line ∈ lines, '\n' ∉ line) →
      ∃ after, readResponse r
          = (.ok ⟨response.status, Line.received response.info,
              .lines (lines.map Line.received)⟩, after) ∧
        after.unread = rest) ∧
    ∀ line, Line.stuff line ≠ Line.sentinel ∧ Line.unstuff (Line.stuff line) = line := by
  obtain ⟨status, info, payload⟩ := response
  subst carries
  refine ⟨⟨?_, ?_⟩, readResponse_received encoded within kept whole comes,
    fun line => ⟨Line.stuff_ne_sentinel line, Line.unstuff_stuff line⟩⟩
  · rintro ⟨after, read, behind⟩
    exact safe_of_readResponse encoded kept whole read behind
  · rintro ⟨⟨infoLine, infoEnd⟩, safe⟩
    obtain ⟨after, read, behind⟩ := readResponse_received encoded within kept whole comes infoLine
      fun line member => (safe line member).1
    refine ⟨after, ?_, behind⟩
    -- A text that ends in no carriage return arrives as it is.
    have linesSame : lines.map Line.received = lines :=
      Line.map_received_eq_self.mpr fun line member => (safe line member).2
    rw [read, Line.received_eq_self.mpr infoEnd, linesSame]

/-- Lines of nothing but dots come back over a transport that cuts them anywhere. -/
theorem readResponse_encode_dots :
    ∃ after, readResponse ⟨[79], ⟨[.bytes [75, 32, 120, 10, 46] (by decide),
          .fault (.ofKind .interrupted),
          .bytes [46, 10, 46, 46, 46, 10, 46, 10, 79] (by decide)], .silent⟩, .latin1⟩
        = (.ok ⟨.ok, ['x'], .lines [['.'], ['.', '.']]⟩, after) ∧ after.unread = [79] :=
  -- The frame comes cut into three pieces, and with a byte of the next one behind it.
  (@readResponse_encode .latin1 Chunk.defaultSize [['.'], ['.', '.']]
    [79, 75, 32, 120, 10, 46, 46, 10, 46, 46, 46, 10, 46, 10] [79] _
    ⟨.ok, ['x'], .lines [['.'], ['.', '.']]⟩ rfl rfl
    (Line.within_of_length_le (by decide)) rfl rfl ⟨[79], rfl⟩).1.mpr (by decide)

end Reader
end AmigaRemote
