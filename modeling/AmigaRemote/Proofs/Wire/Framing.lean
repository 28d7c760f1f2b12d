import AmigaRemote.Proofs.Wire.Failing

/-! The frames of the protocol as sets of byte strings. What is read without failure is exactly one
frame, taken from the front of what is unread. -/

namespace AmigaRemote

/-- One line: bytes that read as a text, up to a line end. -/
def LineFrame (encoding : Encoding) (text : Text) (frame : Bytes) : Prop :=
  ∃ raw, Line.feed ∉ raw ∧ encoding.decode (dropCarriageReturn raw) = text ∧
    frame = raw ++ [Line.feed]

/-- Bytes without a line end make a line once there is one behind them. -/
theorem LineFrame.of_free {encoding : Encoding} (raw : Bytes) (free : Line.feed ∉ raw) :
    LineFrame encoding (encoding.decode (dropCarriageReturn raw)) (raw ++ [Line.feed]) :=
  -- The bytes themselves are the raw line.
  ⟨raw, free, rfl, rfl⟩

/-- A status line. -/
def StatusFrame (encoding : Encoding) (parts : Status × Text) (frame : Bytes) : Prop :=
  ∃ line, LineFrame encoding line frame ∧ Status.parseLine line = .ok parts

/-- The lines of a payload, up to and including the first sentinel. -/
inductive PayloadFrame (encoding : Encoding) : List Text → Bytes → Prop where
  | sentinel {frame : Bytes} (last : LineFrame encoding Line.sentinel frame) :
    PayloadFrame encoding [] frame
  | line {text : Text} {lines : List Text} {first rest : Bytes}
    (head : LineFrame encoding text first) (notLast : text ≠ Line.sentinel)
    (tail : PayloadFrame encoding lines rest) :
    PayloadFrame encoding (Line.unstuff text :: lines) (first ++ rest)

/-- A response that carries lines: from the status line through the sentinel. -/
inductive ResponseFrame (encoding : Encoding) : Response → Bytes → Prop where
  | lines {status : Status} {info : Text} {lines : List Text} {first rest : Bytes}
    (head : StatusFrame encoding (status, info) first)
    (payload : PayloadFrame encoding lines rest) :
    ResponseFrame encoding ⟨status, info, .lines lines⟩ (first ++ rest)

/-- An error line and the sentinel. -/
inductive RefusalFrame (encoding : Encoding) : DaemonError → Bytes → Prop where
  | refusal {info : Text} {first last : Bytes} (head : StatusFrame encoding (.err, info) first)
    (sentinel : LineFrame encoding Line.sentinel last) :
    RefusalFrame encoding (.ofInfo info) (first ++ last)

/-- One step of a transfer: a header and its bytes, or one of the two ends with the sentinel. -/
inductive ChunkFrame (encoding : Encoding) : Chunk → Bytes → Prop where
  | data {header : Text} {first body : Bytes} (head : LineFrame encoding header first)
    (length : Chunk.parseHeader header = .ok (some body.length)) :
    ChunkFrame encoding (.data body) (first ++ body)
  | ended {first last : Bytes} (head : LineFrame encoding Chunk.endLine first)
    (sentinel : LineFrame encoding Line.sentinel last) :
    ChunkFrame encoding .ended (first ++ last)
  | aborted {e : DaemonError} {frame : Bytes} (refusal : RefusalFrame encoding e frame) :
    ChunkFrame encoding (.aborted e) frame

/-- A transfer: chunks up to and including the end, or the error that takes its place. -/
inductive TransferFrame (encoding : Encoding) : List Bytes → Option DaemonError → Bytes → Prop where
  | ended {frame : Bytes} (last : ChunkFrame encoding .ended frame) :
    TransferFrame encoding [] none frame
  | aborted {e : DaemonError} {frame : Bytes} (last : ChunkFrame encoding (.aborted e) frame) :
    TransferFrame encoding [] (some e) frame
  | chunk {body : Bytes} {chunks : List Bytes} {why : Option DaemonError} {first rest : Bytes}
    (head : ChunkFrame encoding (.data body) first)
    (tail : TransferFrame encoding chunks why rest) :
    TransferFrame encoding (body :: chunks) why (first ++ rest)

/-- A response that carries data: an error through the sentinel, or a transfer through the
sentinel of its end or of the error that takes its place. -/
inductive ChunkedFrame (encoding : Encoding) : Response → Bytes → Prop where
  | refused {info : Text} {lines : List Text} {first rest : Bytes}
    (head : StatusFrame encoding (.err, info) first)
    (payload : PayloadFrame encoding lines rest) :
    ChunkedFrame encoding ⟨.err, info, .lines lines⟩ (first ++ rest)
  | ended {info : Text} {chunks : List Bytes} {first rest : Bytes}
    (head : StatusFrame encoding (.ok, info) first)
    (transfer : TransferFrame encoding chunks none rest) :
    ChunkedFrame encoding (.okBinary info chunks.flatten) (first ++ rest)
  | aborted {info : Text} {chunks : List Bytes} {e : DaemonError} {first rest : Bytes}
    (head : StatusFrame encoding (.ok, info) first)
    (transfer : TransferFrame encoding chunks (some e) rest) :
    ChunkedFrame encoding ⟨.err, e.info, .binary chunks.flatten⟩ (first ++ rest)

/-- A reading whose successes take exactly one frame from the front of what is unread. -/
def Takes {α : Type} (reading : Reading α) (Frame : Encoding → α → Bytes → Prop) : Prop :=
  ∀ ⦃r after : Reader⦄ ⦃a : α⦄, reading r = (.ok a, after) →
    ∃ frame, Frame r.encoding a frame ∧ r.unread = frame ++ after.unread ∧
      after.encoding = r.encoding

namespace Reader

/-- A line is read whole. -/
theorem readLine_takes : Takes readLine LineFrame := by
  intro r after text read
  -- What was read is the raw line without its return, and stood before the line feed.
  obtain ⟨raw, free, same, front, kept⟩ := readLine_ok read
  exact ⟨raw ++ [Line.feed], ⟨raw, free, same, rfl⟩, by simp [front], kept⟩

/-- A status line is read whole. -/
theorem readStatus_takes : Takes readStatus StatusFrame := by
  intro r after parts read
  obtain ⟨line, next, first, rest⟩ := Step.bind_eq_ok.mp read
  obtain ⟨frame, head, front, kept⟩ := readLine_takes first
  -- To understand the line takes nothing more.
  obtain ⟨parsed, rfl⟩ := Prod.mk.inj rest
  exact ⟨frame, ⟨line, head, parsed⟩, front, kept⟩

/-- The sentinel is read whole. -/
theorem expectSentinel_takes :
    Takes expectSentinel fun encoding _ frame => LineFrame encoding Line.sentinel frame := by
  intro r after _ read
  obtain ⟨line, next, first, rest⟩ := Step.bind_eq_ok.mp read
  obtain ⟨frame, head, front, kept⟩ := readLine_takes first
  split at rest
  · simp at rest
  · rename_i same
    -- Any other line would have been a failure.
    cases rest
    exact ⟨frame, Decidable.not_not.mp same ▸ head, front, kept⟩

/-- Payload lines are read through the sentinel, behind those at hand. -/
theorem readLinesAfter_takes (lines : List Text) :
    Takes (readLinesAfter lines) fun encoding all frame =>
      ∃ more, all = lines.reverse ++ more ∧ PayloadFrame encoding more frame := by
  intro r after all read
  -- Every line but the sentinel moves to those at hand.
  fun_induction readLinesAfter lines r with
  | case1 => simp at read
  | case2 lines r next found =>
    cases read
    obtain ⟨frame, last, front, kept⟩ := readLine_takes found
    exact ⟨frame, ⟨[], by simp, .sentinel last⟩, front, kept⟩
  | case3 lines r line next found notLast shorter ih =>
    obtain ⟨first, head, front, kept⟩ := readLine_takes found
    obtain ⟨rest, ⟨more, same, tail⟩, front', kept'⟩ := ih read
    rw [kept] at tail
    refine ⟨first ++ rest, ⟨_, ?_, .line head notLast tail⟩, ?_, kept'.trans kept⟩
    · simp [same]
    · rw [front, front', List.append_assoc]

/-- Payload lines are read through the sentinel. -/
theorem readLines_takes : Takes readLines PayloadFrame := by
  intro r after all read
  -- At the beginning no lines are at hand.
  obtain ⟨frame, ⟨more, same, payload⟩, front, kept⟩ := readLinesAfter_takes [] read
  have same : all = more := by simpa using same
  exact ⟨frame, same ▸ payload, front, kept⟩

/-- A response that carries lines is read whole. -/
theorem readResponse_takes : Takes readResponse ResponseFrame := by
  intro r after response read
  obtain ⟨⟨status, info⟩, next, first, rest⟩ := Step.bind_eq_ok.mp read
  obtain ⟨lines, last, second, done⟩ := Step.bind_eq_ok.mp rest
  cases done
  obtain ⟨head, isHead, front, kept⟩ := readStatus_takes first
  obtain ⟨payload, isPayload, front', kept'⟩ := readLines_takes second
  rw [kept] at isPayload
  -- The two frames stand one behind the other, in the same encoding.
  exact ⟨head ++ payload, .lines isHead isPayload, by rw [front, front', List.append_assoc],
    kept'.trans kept⟩

/-- A step of a transfer is read whole. -/
theorem readChunk_takes : Takes readChunk ChunkFrame := by
  intro r after chunk read
  obtain ⟨line, next, first, rest⟩ := Step.bind_eq_ok.mp read
  obtain ⟨head, isHead, front, kept⟩ := readLine_takes first
  obtain ⟨header, same, parsed, rest⟩ := Step.bind_eq_ok.mp rest
  obtain ⟨announced, rfl⟩ := Prod.mk.inj parsed
  -- A header is followed by as many bytes as it says, and any other line by the sentinel.
  cases header with
  | some length =>
    obtain ⟨bytes, last, counted, done⟩ := Step.bind_eq_ok.mp rest
    cases done
    have kept' := readExact_encoding next length
    rw [counted] at kept'
    have many := readExact_length counted
    subst many
    exact ⟨head ++ bytes, .data isHead announced,
      by rw [front, readExact_ok counted, List.append_assoc], kept'.trans kept⟩
  | none =>
    by_cases isEnd : line = Chunk.endLine
    · simp only [isEnd, if_true] at rest
      obtain ⟨_, last, ended, done⟩ := Step.bind_eq_ok.mp rest
      cases done
      obtain ⟨sentinel, isSentinel, front', kept'⟩ := expectSentinel_takes ended
      rw [kept] at isSentinel
      exact ⟨head ++ sentinel, .ended (isEnd ▸ isHead) isSentinel,
        by rw [front, front', List.append_assoc], kept'.trans kept⟩
    · simp only [isEnd, if_false] at rest
      -- Only an error line leads on to a sentinel.
      cases status : Status.parseLine line with
      | error e => simp [status] at rest
      | ok parts =>
        rcases parts with ⟨_ | _, info⟩
        · simp [status] at rest
        · simp only [status] at rest
          obtain ⟨_, last, ended, done⟩ := Step.bind_eq_ok.mp rest
          cases done
          obtain ⟨sentinel, isSentinel, front', kept'⟩ := expectSentinel_takes ended
          rw [kept] at isSentinel
          exact ⟨head ++ sentinel, .aborted (.refusal ⟨line, isHead, status⟩ isSentinel),
            by rw [front, front', List.append_assoc], kept'.trans kept⟩

/-- A transfer is read whole, behind the chunks at hand. -/
theorem readTransferAfter_takes (info : Text) (chunks : List Bytes) :
    Takes (readTransferAfter info chunks) fun encoding response frame =>
      ∃ more why, TransferFrame encoding more why frame ∧
        response = match why with
          | none => .okBinary info (chunks.reverse ++ more).flatten
          | some e => ⟨.err, e.info, .binary (chunks.reverse ++ more).flatten⟩ := by
  intro r after response read
  -- Every chunk of data moves to those at hand.
  fun_induction readTransferAfter info chunks r with
  | case1 => simp at read
  | case2 chunks r bytes next found shorter ih =>
    obtain ⟨first, head, front, kept⟩ := readChunk_takes found
    obtain ⟨rest, ⟨more, why, tail, same⟩, front', kept'⟩ := ih read
    rw [kept] at tail
    refine ⟨first ++ rest, ⟨bytes :: more, why, .chunk head tail, ?_⟩, ?_, kept'.trans kept⟩
    · simpa using same
    · rw [front, front', List.append_assoc]
  | case3 chunks r next found =>
    cases read
    obtain ⟨frame, last, front, kept⟩ := readChunk_takes found
    exact ⟨frame, ⟨[], none, .ended last, by simp⟩, front, kept⟩
  | case4 chunks r e next found =>
    cases read
    obtain ⟨frame, last, front, kept⟩ := readChunk_takes found
    exact ⟨frame, ⟨[], some e, .aborted last, by simp⟩, front, kept⟩

/-- A response that carries data is read whole. -/
theorem readChunkedResponse_takes : Takes readChunkedResponse ChunkedFrame := by
  intro r after response read
  obtain ⟨⟨status, info⟩, next, first, rest⟩ := Step.bind_eq_ok.mp read
  obtain ⟨head, isHead, front, kept⟩ := readStatus_takes first
  -- An error carries lines, and a success a transfer.
  cases status with
  | err =>
    obtain ⟨lines, last, second, done⟩ := Step.bind_eq_ok.mp rest
    cases done
    obtain ⟨payload, isPayload, front', kept'⟩ := readLines_takes second
    rw [kept] at isPayload
    exact ⟨head ++ payload, .refused isHead isPayload, by rw [front, front', List.append_assoc],
      kept'.trans kept⟩
  | ok =>
    obtain ⟨transfer, ⟨more, why, isTransfer, same⟩, front', kept'⟩ :=
      readTransferAfter_takes info [] rest
    rw [kept] at isTransfer
    refine ⟨head ++ transfer, ?_, by rw [front, front', List.append_assoc], kept'.trans kept⟩
    -- The end of the transfer decides what became of the response.
    cases why with
    | none => exact same ▸ .ended isHead isTransfer
    | some e => exact same ▸ .aborted isHead isTransfer

end Reader

/-- A reading whose failures all come after something was sent, so that they break the
connection. -/
def FailsOnWire {α : Type} (reading : Reading α) : Prop :=
  ∀ ⦃r after : Reader⦄ ⦃e : WireError⦄, reading r = (.error e, after) → e.beforeSending = false

/-- An outage is no refusal of an argument. -/
theorem WireError.beforeSending_of_isOutage {e : WireError} (outage : e.isOutage = true) :
    e.beforeSending = false := by
  -- No error is both.
  cases e <;> first | rfl | cases outage

/-- A line that has no place where it stands is no refusal of an argument. -/
theorem WireError.beforeSending_of_isMisread {e : WireError} (misread : e.isMisread = true) :
    e.beforeSending = false := by
  -- No error is both.
  cases e <;> first | rfl | cases misread

namespace Reader

/-- No reading refuses an argument. -/
theorem failsOnWire_explained : Explained fun e _ => e.beforeSending = false where
  -- The bytes that are missing are missing for an outage.
  line := fun _ _ _ failed => WireError.beforeSending_of_isOutage (readLineBytes_error failed)
  bytes := fun _ _ _ _ failed => WireError.beforeSending_of_isOutage (readExact_error failed)
  misread := fun _ misread => WireError.beforeSending_of_isMisread misread

/-- No line is refused for an argument. -/
theorem readLine_failsOnWire : FailsOnWire readLine :=
  failsOnWire_explained.readLine

/-- No status line is refused for an argument. -/
theorem readStatus_failsOnWire : FailsOnWire readStatus :=
  failsOnWire_explained.readStatus

/-- No sentinel is refused for an argument. -/
theorem expectSentinel_failsOnWire : FailsOnWire expectSentinel :=
  failsOnWire_explained.expectSentinel

/-- No step of a transfer is refused for an argument. -/
theorem readChunk_failsOnWire : FailsOnWire readChunk :=
  failsOnWire_explained.readChunk

/-- No response that carries lines is refused for an argument. -/
theorem readResponse_failsOnWire : FailsOnWire readResponse :=
  failsOnWire_explained.readResponse

/-- No response that carries data is refused for an argument. -/
theorem readChunkedResponse_failsOnWire : FailsOnWire readChunkedResponse :=
  failsOnWire_explained.readChunkedResponse

end Reader
end AmigaRemote
