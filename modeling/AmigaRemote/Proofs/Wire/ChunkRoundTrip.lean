import AmigaRemote.Proofs.Text.Decimal
import AmigaRemote.Proofs.Wire.Writing

/-! Data comes back as it was sent, whatever chunks it was cut into and whatever its bytes look
like. -/

namespace AmigaRemote

namespace Chunk

/-- A header is plain, and fits into a line. -/
theorem header_plain (n : Nat) :
    (∀ c ∈ lead ++ Decimal.ofNat n, c.toNat < 0x80) ∧ Line.Safe (lead ++ Decimal.ofNat n) := by
  -- Behind the lead there are digits and nothing else.
  have digits : ∀ c ∈ Decimal.ofNat n, 48 ≤ c.toNat ∧ c.toNat ≤ 57 :=
    fun c member => Char.toNat_of_isDigit (Decimal.isDigit_of_mem_ofNat member)
  have plain : ∀ c ∈ lead ++ Decimal.ofNat n, 32 ≤ c.toNat ∧ c.toNat < 0x80 := by
    intro c member
    rcases List.mem_append.mp member with inLead | inDigits
    · have small : ∀ c ∈ lead, 32 ≤ c.toNat ∧ c.toNat < 0x80 := by simp [lead]
      exact small c inLead
    · have := digits c inDigits
      omega
  refine ⟨fun c member => (plain c member).2, fun member => ?_, fun last => ?_⟩
  · exact absurd (plain _ member).1 (by decide)
  · exact absurd (plain _ (List.mem_of_getLast? last)).1 (by decide)

/-- The length of a chunk is read from its header. -/
theorem parseHeader_ofNat {n : Nat} (small : n ≤ maxSize) :
    parseHeader (lead ++ Decimal.ofNat n) = .ok (some n) := by
  -- A length that is allowed fits in the number that the header may hold.
  have below : n ≤ UInt64.size - 1 := Nat.le_trans small (by decide)
  simp only [parseHeader, Text.after?_append, Decimal.nat?_ofNat below]

/-- The header of a chunk keeps to the limit of a line. -/
theorem within_header {n : Nat} (small : n ≤ maxSize) :
    Line.Within (plainLine (lead ++ Decimal.ofNat n)) := by
  -- The length has eight digits at most, and the lead has five characters.
  have below : n < 10 ^ 8 := Nat.lt_of_le_of_lt small (by decide)
  have few : (Decimal.ofNat n).length ≤ 8 :=
    (Nat.length_toDigits_le_iff (by decide) (by decide)).mpr below
  refine Line.within_of_length_le ?_
  simp only [plainLine, List.length_append, List.length_map, lead, List.length_cons,
    List.length_nil, Line.maxLength]
  omega

/-- Data that is sent in chunks of a size is cut into pieces of no more than the size. -/
theorem encodeAll_eq (size : Nat) (data : Bytes) :
    ∃ pieces : List Bytes, encodeAll size data = pieces.flatMap encode ++ plainLine endLine ∧
      pieces.flatten = data ∧
      ∀ piece ∈ pieces, piece.length ≤ if size = 0 then defaultSize else size := by
  -- A size of none stands for the usual size.
  unfold encodeAll
  by_cases positive : 0 < size
  · have some : size ≠ 0 := by omega
    rw [if_neg some]
    refine ⟨chunksOf size positive data, by simp only [positive, dif_pos], flatten_chunksOf, ?_⟩
    exact fun piece => length_le_of_mem_chunksOf
  · have none : size = 0 := by omega
    rw [if_pos none]
    refine ⟨chunksOf defaultSize (by decide) data,
      by simp only [positive, dif_neg, not_false_eq_true], flatten_chunksOf, ?_⟩
    exact fun piece => length_le_of_mem_chunksOf

end Chunk

/-- The status line of some info has bytes and keeps to the limit if any status line of the same
meaning does. -/
theorem Status.encode_line {encoding : Encoding} {status : Status} {text info : Text}
    {bytes : Bytes} (parsed : parseLine text = .ok (status, info))
    (encoded : encoding.encode text = .ok bytes) (short : bytes.length ≤ Line.maxLength) :
    ∃ raw, encoding.encode (status.line info) = .ok raw ∧ raw.length ≤ Line.maxLength := by
  unfold line
  rcases eq_of_parseLine parsed with ⟨rfl, rfl⟩ | rfl
  · exact ⟨bytes, encoded, short⟩
  · by_cases none : info = []
    · -- A space with nothing behind it is left out.
      rw [if_pos none]
      refine ⟨_, Encoding.encode_of_plain status.word_plain, ?_⟩
      cases status <;> decide
    · rw [if_neg none]
      exact ⟨bytes, encoded, short⟩

namespace Reader

variable {encoding : Encoding}

/-- A chunk within the limit is read once it has come whole. Its bytes are counted, not looked
at. -/
theorem readChunk_arrives_data {bytes : Bytes} (small : bytes.length ≤ Chunk.maxSize) :
    Arrives readChunk encoding (.data bytes) (Chunk.encode bytes) := by
  obtain ⟨plain, safe⟩ := Chunk.header_plain bytes.length
  refine (readLine_arrives (lineFrame_plainLine plain safe) (Chunk.within_header small)).bind ?_
  -- The header says how many bytes follow it.
  refine (Arrives.ofExcept (Chunk.parseHeader_ofNat small)).nil_bind ?_
  exact (readExact_arrives small).bind_nil (.pure _)

/-- The end of a transfer is read once it has come whole. -/
theorem readChunk_arrives_ended :
    Arrives readChunk encoding .ended
      (Chunk.plainLine Chunk.endLine ++ Chunk.plainLine Line.sentinel) := by
  have head : LineFrame encoding Chunk.endLine (Chunk.plainLine Chunk.endLine) :=
    lineFrame_plainLine (by simp [Chunk.endLine]) (by decide)
  refine (readLine_arrives head (Line.within_of_length_le (by decide))).bind ?_
  -- The end line is no header, and the sentinel follows it.
  refine (Arrives.ofExcept (rfl : Chunk.parseHeader Chunk.endLine = .ok none)).nil_bind ?_
  simp only [if_true]
  exact (expectSentinel_arrives (lineFrame_sentinel encoding)
    (Line.within_of_length_le (by decide))).bind_nil (.pure _)

/-- A transfer is read once it has come whole, behind the chunks at hand. -/
theorem readTransferAfter_arrives (info : Text) {chunks : List Bytes}
    (small : ∀ chunk ∈ chunks, chunk.length ≤ Chunk.maxSize) (atHand : List Bytes) :
    Arrives (readTransferAfter info atHand) encoding
      (.okBinary info (atHand.reverse ++ chunks).flatten)
      (chunks.flatMap Chunk.encode
        ++ (Chunk.plainLine Chunk.endLine ++ Chunk.plainLine Line.sentinel)) := by
  -- Each chunk that is read joins those at hand, and the end line ends the transfer.
  induction chunks generalizing atHand with
  | nil =>
    rw [readTransferAfter_eq, List.append_nil, List.flatMap_nil, List.nil_append]
    exact readChunk_arrives_ended.bind_nil (.pure _)
  | cons chunk chunks ih =>
    rw [List.forall_mem_cons] at small
    have others := ih small.2 (chunk :: atHand)
    rw [List.reverse_cons, List.append_assoc, List.singleton_append] at others
    rw [readTransferAfter_eq, List.flatMap_cons, List.append_assoc]
    exact (readChunk_arrives_data small.1).bind others

/-- A response that carries data is read once it has come whole, and its data are the chunks put
together. -/
theorem readChunkedResponse_arrives {info : Text} {first : Bytes} {chunks : List Bytes}
    (head : StatusFrame encoding (.ok, info) first) (within : Line.Within first)
    (small : ∀ chunk ∈ chunks, chunk.length ≤ Chunk.maxSize) :
    Arrives readChunkedResponse encoding (.okBinary info chunks.flatten)
      (first ++ (chunks.flatMap Chunk.encode
        ++ (Chunk.plainLine Chunk.endLine ++ Chunk.plainLine Line.sentinel))) :=
  -- The status line is read, and then chunk after chunk up to the end line.
  (readStatus_arrives head within).bind (readTransferAfter_arrives info small [])

/-- A status line of success and chunks within the limit are read back as the chunks put
together. -/
theorem readsBack_chunks {line info : Text} {status : Bytes} {chunks : List Bytes}
    (isOk : Status.parseLine line = .ok (.ok, info)) (safe : Line.Safe info)
    (encoded : encoding.encode line = .ok status) (short : status.length ≤ Line.maxLength)
    (small : ∀ chunk ∈ chunks, chunk.length ≤ Chunk.maxSize) :
    ReadsBack readChunkedResponse encoding (.okBinary info chunks.flatten)
      (status ++ Line.feed :: (chunks.flatMap Chunk.encode
        ++ (Chunk.plainLine Chunk.endLine ++ Chunk.plainLine Line.sentinel))) := by
  -- The status line holds no line feed and no carriage return at its end.
  have lineSafe := Status.safe_of_parseLine isOk safe
  have written : Response.encodeLine encoding line = .ok (status ++ [Line.feed]) :=
    Response.encodeLine_eq_ok.mpr ⟨status, encoded, rfl⟩
  have frame := Response.lineFrame_of_encodeLine written lineSafe.1
  rw [Line.received_eq_self.mpr lineSafe.2] at frame
  have free := Encoding.feed_not_mem encoded lineSafe.1
  -- It keeps to the limit, and the headers of the chunks do so by themselves.
  have within : Line.Within (status ++ [Line.feed]) :=
    Line.Within.cons free short (Line.within_of_length_le (Nat.zero_le _))
  have arrives := readChunkedResponse_arrives ⟨line, frame, isOk⟩ within small
  rw [List.append_assoc] at arrives
  exact arrives.readsBack

/-- Data is read back as it was, whatever chunks it is cut into: bytes within chunks are counted and
not looked at, so none of them can be taken for a line of the protocol. This holds for chunks put
together by anyone, and for those a response is put into a buffer with. -/
theorem readChunkedResponse_chunks {line info : Text} {status : Bytes}
    (isOk : Status.parseLine line = .ok (.ok, info)) (safe : Line.Safe info)
    (encoded : encoding.encode line = .ok status) (short : status.length ≤ Line.maxLength) :
    (∀ chunks : List Bytes, (∀ chunk ∈ chunks, chunk.length ≤ Chunk.maxSize) →
      ReadsBack readChunkedResponse encoding (.okBinary info chunks.flatten)
        (status ++ Line.feed :: (chunks.flatMap Chunk.encode
          ++ (Chunk.plainLine Chunk.endLine ++ Chunk.plainLine Line.sentinel))) ∧
      chunks.flatten.length = chunks.foldr (fun chunk total => chunk.length + total) 0) ∧
    ∀ (data : Bytes) (chunkSize : Nat) (buffer : Bytes),
      min chunkSize data.length ≤ Chunk.maxSize →
      ∃ wire, (Response.okBinary info data).encodeInto encoding chunkSize buffer
          = (.ok (), buffer ++ wire) ∧
        ReadsBack readChunkedResponse encoding (.okBinary info data) wire := by
  refine ⟨fun chunks small => ⟨readsBack_chunks isOk safe encoded short small, ?_⟩, ?_⟩
  · rw [List.length_flatten, List.sum_eq_foldr, List.foldr_map]
  intro data chunkSize buffer fits
  obtain ⟨raw, written, rawShort⟩ := Status.encode_line isOk encoded short
  obtain ⟨pieces, sent, whole, sizes⟩ := Chunk.encodeAll_eq chunkSize data
  -- No piece is larger than the size asked for, nor than all the data.
  have small : ∀ piece ∈ pieces, piece.length ≤ Chunk.maxSize := by
    intro piece member
    have size := sizes piece member
    have part : piece.length ≤ data.length := by
      rw [← whole]
      exact (List.sublist_flatten_of_mem member).length_le
    split at size
    · exact Nat.le_trans size (by decide)
    · omega
  have back := readsBack_chunks (Status.parseLine_line .ok info) safe written rawShort small
  rw [whole] at back
  have encodes : (Response.okBinary info data).encode encoding chunkSize
      = .ok (raw ++ [Line.feed] ++ Chunk.encodeAll chunkSize data
        ++ Chunk.plainLine Line.sentinel) := by
    have first : Response.encodeLine encoding (Status.ok.line info) = .ok (raw ++ [Line.feed]) :=
      Response.encodeLine_eq_ok.mpr ⟨raw, written, rfl⟩
    unfold Response.encode
    exact Except.bind_eq_ok.mpr ⟨_, first, Except.bind_eq_ok.mpr ⟨_, rfl, rfl⟩⟩
  refine ⟨_, Response.puts_encodeInto encodes buffer, ?_⟩
  rw [sent]
  simpa using back

/-- Chunks that look like an end line, hold nothing and begin like a header come back over a
transport that cuts and interrupts them, and so does data that is put behind other bytes, one byte a
chunk. -/
theorem readChunkedResponse_chunks_lookalike :
    (∃ after, readChunkedResponse ⟨[79, 75], ⟨[.bytes [32, 56, 10, 68, 65, 84, 65, 32] (by decide),
          .fault (.ofKind .interrupted),
          .bytes [54, 10, 69, 78, 68, 10, 46, 10, 68, 65, 84, 65, 32, 48, 10, 68, 65] (by decide),
          .bytes [84, 65, 32, 50, 10, 68, 65, 69, 78, 68, 10, 46, 10, 79] (by decide)],
          .silent⟩, .latin1⟩
        = (.ok (.okBinary ['8'] [69, 78, 68, 10, 46, 10, 68, 65]), after) ∧ after.unread = [79]) ∧
    ∃ wire, (Response.okBinary ['8'] [46, 10]).encodeInto .latin1 1 [60]
        = (.ok (), [60] ++ wire) ∧
      ReadsBack readChunkedResponse .latin1 (.okBinary ['8'] [46, 10]) wire := by
  -- The general statement is applied to one status line, once to given chunks and once to given
  -- data.
  have whole := @readChunkedResponse_chunks .latin1 ['O', 'K', ' ', '8'] ['8'] [79, 75, 32, 56] rfl
    (by decide) rfl (by decide)
  refine ⟨?_, whole.2 [46, 10] 1 [60] (by decide)⟩
  exact (whole.1 [[69, 78, 68, 10, 46, 10], [], [68, 65]] (by decide)).1 rfl rfl ⟨[79], rfl⟩

end Reader
end AmigaRemote
