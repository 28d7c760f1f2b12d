import AmigaRemote.Proofs.Wire.Demand
import AmigaRemote.Proofs.Wire.Unambiguity

/-! Every layout is read stretch by stretch, so every request that was once answered is answered
wherever the same bytes come first, and nothing is read beyond them. -/

namespace AmigaRemote

variable {encoding : Encoding} {layout : Layout}

/-- A line of text is read as what its bytes say. -/
theorem LineBytes.asks {raw said : Bytes} (isLine : LineBytes raw said) :
    Asks encoding Reader.readLine [.line raw] (encoding.decode said) := by
  -- The raw line has no line feed, which is all that is asked of it.
  obtain ⟨free, rfl⟩ := isLine
  exact .text free

/-- A status line is read as one line. -/
theorem StatusLayout.asks {parts : Status × Text} (isStatus : StatusLayout encoding parts layout) :
    Asks encoding Reader.readStatus layout parts := by
  -- Understanding the line asks for nothing behind it.
  cases isStatus with
  | line isLine verdict => exact isLine.asks.bind_nil (.ofExcept (parseLine_decode.mpr verdict))

/-- The sentinel is read as one line. -/
theorem SentinelLayout.asks (isSentinel : SentinelLayout layout) :
    Asks encoding Reader.expectSentinel layout () := by
  cases isSentinel with
  | line isLine =>
    refine isLine.asks.bind_nil ?_
    -- The line that was read is the sentinel, so it is not refused.
    rw [Encoding.decode_eq_sentinel.mpr rfl, if_neg (fun other => other rfl)]
    exact .pure ()

/-- A payload is read line by line, behind the lines at hand. -/
theorem PayloadLayout.asks {lines : List Text} (payload : PayloadLayout encoding lines layout)
    (atHand : List Text) :
    Asks encoding (Reader.readLinesAfter atHand) layout (atHand.reverse ++ lines) := by
  -- Each line that is read joins those at hand, and the sentinel ends the payload.
  induction payload generalizing atHand with
  | sentinel last =>
    cases last with
    | line isLine =>
      rw [Reader.readLinesAfter_eq, List.append_nil]
      refine isLine.asks.bind_nil ?_
      simp only [Encoding.decode_eq_sentinel.mpr, if_true]
      exact .pure _
  | @line lines raw said rest isLine notLast tail ih =>
    have others := ih (Line.unstuff (encoding.decode said) :: atHand)
    rw [List.reverse_cons, List.append_assoc, List.singleton_append] at others
    have notLast : encoding.decode said ≠ Line.sentinel := mt Encoding.decode_eq_sentinel.mp notLast
    rw [Reader.readLinesAfter_eq]
    refine isLine.asks.bind ?_
    simpa only [notLast, if_false] using others

/-- A response that carries lines is read as its status line and its payload. -/
theorem ResponseLayout.asks {response : Response}
    (isResponse : ResponseLayout encoding response layout) :
    Asks encoding Reader.readResponse layout response := by
  -- The payload begins with no line gathered.
  cases isResponse with
  | lines head payload => exact head.asks.bind ((payload.asks []).bind_nil (.pure _))

/-- A step of a transfer is read as its lines and its data. -/
theorem ChunkLayout.asks {chunk : Chunk} (isChunk : ChunkLayout encoding chunk layout) :
    Asks encoding Reader.readChunk layout chunk := by
  cases isChunk with
  | @data raw said body isLine header small =>
    -- What is within the limit of a chunk is within that of a number.
    have fits : body.length ≤ UInt64.size - 1 := Nat.le_trans small (by decide)
    have announced := (@parseHeader_decode encoding _ _).mpr ⟨header, fits⟩
    exact isLine.asks.bind ((Asks.ofExcept announced).bind ((Asks.counted small).bind_nil (.pure _)))
  | ended isLine sentinel =>
    -- The end line does not begin like a header.
    have other := (@parseHeader_decode_none encoding _).mpr
      (by decide : ¬Chunk.lead.plainBytes <+: Chunk.endLine.plainBytes)
    refine isLine.asks.bind ((Asks.ofExcept other).bind ?_)
    simp only [Encoding.decode_eq_endLine.mpr, if_true]
    exact sentinel.asks.bind_nil (.pure _)
  | aborted head sentinel =>
    cases head with
    | line isLine verdict =>
      have parsed := parseLine_decode.mpr verdict
      -- An error line is neither a header nor the end line.
      refine isLine.asks.bind ((Asks.ofExcept (Chunk.parseHeader_of_err parsed)).bind ?_)
      simp only [if_neg (Chunk.endLine_ne parsed), parsed]
      exact sentinel.asks.bind_nil (.pure _)

/-- A transfer is read step by step, behind the chunks at hand. -/
theorem TransferLayout.asks {chunks : List Bytes} {why : Option DaemonError}
    (transfer : TransferLayout encoding chunks why layout) (info : Text) (atHand : List Bytes) :
    Asks encoding (Reader.readTransferAfter info atHand) layout
      (.ofTransfer info (atHand.reverse ++ chunks) why) := by
  -- Each chunk that is read joins those at hand, and the end or an error ends the transfer.
  induction transfer generalizing atHand with
  | ended last =>
    rw [Reader.readTransferAfter_eq, List.append_nil]
    exact last.asks.bind_nil (.pure _)
  | aborted last =>
    rw [Reader.readTransferAfter_eq, List.append_nil]
    exact last.asks.bind_nil (.pure _)
  | @chunk body chunks why first rest head tail ih =>
    have others := ih (body :: atHand)
    rw [List.reverse_cons, List.append_assoc, List.singleton_append] at others
    rw [Reader.readTransferAfter_eq]
    exact head.asks.bind others

/-- A response that carries data is read as its status line and what follows it. -/
theorem ChunkedLayout.asks {response : Response}
    (isResponse : ChunkedLayout encoding response layout) :
    Asks encoding Reader.readChunkedResponse layout response := by
  -- It is refused with lines, or it is transferred.
  cases isResponse with
  | refused head payload => exact head.asks.bind ((payload.asks []).bind_nil (.pure _))
  | transferred head transfer => exact head.asks.bind (transfer.asks _ [])

/-- What is laid out for an answer is read as the answer. -/
theorem ReadRequest.Lays.asks {request : ReadRequest} {answer : ReadAnswer}
    (lays : request.Lays encoding answer layout) : Asks encoding request.perform layout answer := by
  -- One case for each request, the answer being put into the common type.
  cases lays with
  | line isLine => exact isLine.asks.bind_nil (.pure _)
  | lineBytes isLine =>
    obtain ⟨free, rfl⟩ := isLine
    exact (Asks.line free).bind_nil (.pure _)
  | exact small => exact (Asks.counted small).bind_nil (.pure _)
  | status isStatus => exact isStatus.asks.bind_nil (.pure _)
  | lines payload => exact (payload.asks []).bind_nil (.pure _)
  | sentinel isSentinel => exact isSentinel.asks.bind_nil (.pure _)
  | chunk isChunk => exact isChunk.asks.bind_nil (.pure _)
  | response isResponse => exact isResponse.asks.bind_nil (.pure _)
  | chunkedResponse isResponse => exact isResponse.asks.bind_nil (.pure _)

namespace ReadRequest

variable {request : ReadRequest} {r after : Reader} {answer : ReadAnswer} {taken : Bytes}

/-- What was read for an answer is laid out as the answer says, and so is no more and no less. -/
theorem laid_of_perform (read : request.perform r = (.ok answer, after))
    (consumed : r.unread = taken ++ after.unread) :
    ∃ layout, request.Lays r.encoding answer layout ∧ layout.bytes = taken := by
  obtain ⟨frame, laid, unread, _⟩ := request.perform_lays read
  -- The bytes that were taken are those that are not left.
  have same : taken = frame := List.append_cancel_right (consumed.symm.trans unread)
  exact same ▸ laid

/-- An answer once given is given again wherever the bytes that were taken for it come first, in
whatever pieces, and whatever is to come after them: bytes, the end, a failure or nothing at all.
These bytes are taken and no others, and no read is begun once the last of them has arrived. Hence
no bytes that are taken for an answer begin with others that are taken for one. Only a line above
the limit could make a difference. -/
theorem perform_prompt (read : request.perform r = (.ok answer, after))
    (consumed : r.unread = taken ++ after.unread)
    (short : ∀ layout, request.Lays r.encoding answer layout → layout.bytes = taken →
      layout.Short) :
    Prompt request.perform r.encoding answer taken ∧
      ∀ r' after' answer' taken', r'.encoding = r.encoding →
        request.perform r' = (.ok answer', after') → r'.unread = taken' ++ after'.unread →
        taken <+: taken' → taken = taken' ∧ answer = answer' := by
  obtain ⟨layout, lays, rfl⟩ := laid_of_perform read consumed
  refine ⟨lays.asks.prompt (short layout lays rfl), ?_⟩
  rintro r' after' answer' taken' kept read' consumed' ⟨more, front⟩
  obtain ⟨other, lays', rfl⟩ := laid_of_perform read' consumed'
  rw [kept] at lays'
  -- Both layouts stand at the front of the longer one of them.
  have whole : layout.bytes ++ more = other.bytes ++ [] := front.trans (List.append_nil _).symm
  obtain ⟨rfl, same⟩ := lays.asks.unique lays'.asks whole
  exact ⟨same, rfl⟩

/-- A response that had arrived with more behind it is read again in pieces, and no read asks what
may come after its sentinel. -/
theorem perform_prompt_unknown :
    ∃ after, response.perform ⟨[79], ⟨[.bytes [75, 10, 46] (by decide),
          .fault (.ofKind .interrupted), .bytes [46, 13, 10, 46] (by decide),
          .bytes [10] (by decide)], .unknown⟩, .utf8⟩
        = (.ok (.response ⟨.ok, [], .lines [['.']]⟩), after) ∧
      after.unread = [] ∧ after.source.ending = .unknown := by
  -- The layout is written down line by line: the status, a stuffed dot, the sentinel.
  have head : StatusLayout .utf8 (.ok, []) [.line [79, 75]] := .line ⟨by decide, rfl⟩ .bare
  have dot : LineBytes [46, 46, 13] [46, 46] := ⟨by decide, rfl⟩
  have sentinel : SentinelLayout [.line [46]] := .line ⟨by decide, rfl⟩
  have lays : response.Lays .utf8 (.response ⟨.ok, [], .lines [['.']]⟩)
      [.line [79, 75], .line [46, 46, 13], .line [46]] :=
    .response (.lines head (.line dot (by decide) (.sentinel sentinel)))
  -- What had arrived is put in front, and the same layout is read again from the pieces.
  have again := (perform_prompt (lays.asks.ready [69, 10] ⟨[], .closed⟩) (List.append_assoc _ _ _)
    fun layout _ same => Layout.short_of_length_le (same ▸ by decide)).1
  obtain ⟨after, read, _, unread, _, kept, _⟩ := @again ⟨[79], ⟨[.bytes [75, 10, 46] (by decide),
      .fault (.ofKind .interrupted), .bytes [46, 13, 10, 46] (by decide),
      .bytes [10] (by decide)], .unknown⟩, .utf8⟩ [] rfl rfl
  exact ⟨after, read, List.append_cancel_left (unread.symm.trans rfl), kept⟩

end ReadRequest
end AmigaRemote
