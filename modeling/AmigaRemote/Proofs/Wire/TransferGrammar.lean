import AmigaRemote.Proofs.Wire.Promptness

/-! A response that carries data is accepted exactly if what comes begins as a grammar of bytes asks
for, and it says what the grammar makes of these bytes. -/

namespace AmigaRemote

/-- An error is read from the info that reports it. -/
theorem DaemonError.ofInfo_info (e : DaemonError) : ofInfo e.info = e := by
  -- The space behind the code is the first one, as digits are none.
  have spaceless : ' ' ∉ Decimal.ofNat e.code.toNat := by
    intro member
    have digit := Decimal.isDigit_of_mem_ofNat member
    revert digit
    decide
  unfold ofInfo info
  simp only [Text.splitFirst?_append spaceless, Option.getD_some, Decimal.uint32?_ofNat]

/-- A status line of success and the transfer behind it. -/
inductive TransferredLayout (encoding : Encoding) (info : Text) (chunks : List Bytes)
    (why : Option DaemonError) : Layout → Prop where
  | success {first rest : Layout} (head : StatusLayout encoding (.ok, info) first)
    (transfer : TransferLayout encoding chunks why rest) :
    TransferredLayout encoding info chunks why (first ++ rest)

namespace TransferredLayout

variable {encoding : Encoding} {info : Text} {chunks : List Bytes} {why : Option DaemonError}
  {layout : Layout}

/-- It is read as what the transfer comes to. -/
theorem asks (transferred : TransferredLayout encoding info chunks why layout) :
    Asks encoding Reader.readChunkedResponse layout (.ofTransfer info chunks why) := by
  -- Of the two kinds of responses it is the one with a transfer.
  cases transferred with
  | success head transfer => exact (ChunkedLayout.transferred head transfer).asks

end TransferredLayout

namespace Reader

variable {r after : Reader} {response : Response}

/-- What was accepted is a status line of success with a transfer behind it, unless the first line
was one of failure. -/
theorem transferred_of_read
    (accepted : ∀ raw rest info, r.unread = raw ++ Line.feed :: rest → Line.feed ∉ raw →
      ¬StatusLine r.encoding .err info (dropCarriageReturn raw))
    (read : readChunkedResponse r = (.ok response, after)) :
    ∃ info chunks why layout, TransferredLayout r.encoding info chunks why layout ∧
      layout.bytes <+: r.unread := by
  obtain ⟨_, ⟨layout, isResponse, rfl⟩, unread, _⟩ := readChunkedResponse_lays read
  cases isResponse with
  | @transferred info chunks why first rest head transfer =>
    exact ⟨info, chunks, why, _, .success head transfer, after.unread, unread.symm⟩
  | @refused info lines first rest head payload =>
    -- A refusal would begin with a line of failure.
    cases head with
    | @line _ _ raw said isLine verdict =>
      obtain ⟨free, rfl⟩ := isLine
      refine absurd verdict (accepted raw (Layout.bytes rest ++ after.unread) info ?_ free)
      rw [unread, Layout.bytes_append, Layout.bytes_singleton, Stretch.bytes]
      simp

/-- From a source that brings all its bytes, in whatever pieces, and then ends, a response that
carries data is accepted exactly if its bytes begin with a status line of success and a transfer:
blocks of a header and as many bytes as it announces, then either the end line or an error line, and
the sentinel. No other bytes in front are such a thing, exactly these are taken, and the response is
what they say: all of the data, or the error with the data before it. Nothing is said of bytes that
begin with a status line of failure, nor of a line above the limit. -/
theorem readChunkedResponse_accepts (reliable : r.source.Reliable)
    (accepted : ∀ raw rest info, r.unread = raw ++ Line.feed :: rest → Line.feed ∉ raw →
      ¬StatusLine r.encoding .err info (dropCarriageReturn raw))
    (short : ∀ info chunks why layout, TransferredLayout r.encoding info chunks why layout →
      layout.bytes <+: r.unread → layout.Short) :
    ((∃ response after, readChunkedResponse r = (.ok response, after)) ↔
      ∃ info chunks why layout, TransferredLayout r.encoding info chunks why layout ∧
        layout.bytes <+: r.unread) ∧
    ∀ info chunks why layout, TransferredLayout r.encoding info chunks why layout →
      layout.bytes <+: r.unread →
      (∀ info' chunks' why' other, TransferredLayout r.encoding info' chunks' why' other →
        other.bytes <+: r.unread → other.bytes = layout.bytes) ∧
      ∃ response after, readChunkedResponse r = (.ok response, after) ∧
        r.unread = layout.bytes ++ after.unread ∧ response.payload = .binary chunks.flatten ∧
        match why with
        | none => response.status = .ok ∧ response.info = info
        | some e => response.status = .err ∧ response.error? = some e := by
  have reads : ∀ info chunks why layout, TransferredLayout r.encoding info chunks why layout →
      layout.bytes <+: r.unread →
      ∃ after, readChunkedResponse r = (.ok (.ofTransfer info chunks why), after) ∧
        r.unread = layout.bytes ++ after.unread := by
    -- A source that brings all of its bytes brings the layout and what is behind it.
    rintro info chunks why layout transferred ⟨rest, whole⟩
    have keeps := short info chunks why layout transferred ⟨rest, whole⟩
    have comes : r.coming = layout.bytes ++ rest := (coming_of_reliable reliable).trans whole.symm
    obtain ⟨after, read, _, unread, _, _⟩ := transferred.asks.prompt keeps rfl comes
    exact ⟨after, read, unread⟩
  refine ⟨⟨?_, ?_⟩, fun info chunks why layout transferred front => ⟨?_, ?_⟩⟩
  · rintro ⟨response, after, read⟩
    exact transferred_of_read accepted read
  · rintro ⟨info, chunks, why, layout, transferred, front⟩
    obtain ⟨after, read, _⟩ := reads info chunks why layout transferred front
    exact ⟨_, after, read⟩
  · -- Two layouts in front of the same bytes are read alike, so they have the same bytes.
    intro info' chunks' why' other transferred' front'
    obtain ⟨rest, whole⟩ := front
    obtain ⟨rest', whole'⟩ := front'
    exact (transferred'.asks.unique transferred.asks (whole'.trans whole.symm)).2
  · obtain ⟨after, read, unread⟩ := reads info chunks why layout transferred front
    refine ⟨_, after, read, unread, ?_⟩
    -- The end of the transfer decides what the response is.
    cases why with
    | none => exact ⟨rfl, rfl, rfl⟩
    | some e => exact ⟨rfl, rfl, congrArg some e.ofInfo_info⟩

/-- A header with a plus and a zero in front, data that looks like the end of a line, no data at all
and an error are a transfer, and what comes behind it is left. -/
theorem readChunkedResponse_accepts_aborted :
    ∃ response after, readChunkedResponse ⟨[79],
          ⟨[.bytes [75, 32, 110, 13, 10, 68] (by decide), .fault (.ofKind .interrupted),
            .bytes [65, 84, 65, 32, 43, 48, 50, 13, 10, 69, 10, 68, 65, 84] (by decide),
            .bytes [65, 32, 48, 10, 69, 82, 82, 32, 51, 48, 48, 32, 120, 10, 46, 13, 10, 79]
              (by decide)], .closed⟩, .latin1⟩ = (.ok response, after) ∧
      after.unread = [79] ∧ response.payload = .binary [69, 10] ∧
      response.error? = some ⟨300, ['x']⟩ := by
  have head : StatusLayout .latin1 (.ok, ['n']) [.line [79, 75, 32, 110, 13]] :=
    .line ⟨by decide, rfl⟩ (.withInfo [110])
  have two : HeaderLine 2 [68, 65, 84, 65, 32, 43, 48, 50] :=
    ⟨['+', '0', '2'], ⟨['0', '2'], .inr rfl, by decide, by simp, rfl⟩, rfl⟩
  have none_ : HeaderLine 0 [68, 65, 84, 65, 32, 48] := ⟨_, Decimal.spells_ofNat 0, rfl⟩
  have why : StatusLayout .latin1 (.err, "300 x".toList)
      [.line [69, 82, 82, 32, 51, 48, 48, 32, 120]] :=
    .line ⟨by decide, rfl⟩ (.withInfo [51, 48, 48, 32, 120])
  have dot : SentinelLayout [.line [46, 13]] := .line ⟨by decide, rfl⟩
  have first : ChunkLayout .latin1 (.data [69, 10])
      [.line [68, 65, 84, 65, 32, 43, 48, 50, 13], .counted [69, 10]] :=
    .data ⟨by decide, rfl⟩ two (by decide)
  have second : ChunkLayout .latin1 (.data []) [.line [68, 65, 84, 65, 32, 48], .counted []] :=
    .data ⟨by decide, rfl⟩ none_ (by decide)
  have whole := TransferredLayout.success head
    (.chunk first (.chunk second (.aborted (.aborted why dot))))
  have reads := @readChunkedResponse_accepts ⟨[79],
      ⟨[.bytes [75, 32, 110, 13, 10, 68] (by decide), .fault (.ofKind .interrupted),
        .bytes [65, 84, 65, 32, 43, 48, 50, 13, 10, 69, 10, 68, 65, 84] (by decide),
        .bytes [65, 32, 48, 10, 69, 82, 82, 32, 51, 48, 48, 32, 120, 10, 46, 13, 10, 79]
          (by decide)], .closed⟩, .latin1⟩ ⟨by decide, rfl⟩ ?accepted ?short
  case accepted =>
    intro raw rest info same free refused
    -- The first line is the one of success.
    obtain ⟨rfl, _⟩ := split_of_free free (by decide : Line.feed ∉ [79, 75, 32, 110, 13]) same.symm
    cases parseLine_decode.mpr refused
  case short =>
    intro info chunks why layout _ front
    exact Layout.short_of_length_le (Nat.le_trans front.length_le (by decide))
  obtain ⟨response, after, read, unread, payload, _, error⟩ := (reads.2 _ _ _ _ whole ⟨[79], rfl⟩).2
  exact ⟨response, after, read, List.append_cancel_left (unread.symm.trans rfl), payload, error⟩

end Reader
end AmigaRemote
