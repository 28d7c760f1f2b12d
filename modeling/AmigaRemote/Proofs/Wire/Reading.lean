import AmigaRemote.Wire.Consumption

/-! What lines are read depends on the bytes that come alone, not on the pieces they come in. -/

namespace AmigaRemote

/-- Whether the transport failed or a limit was passed, so that nothing is said about what the
daemon sent. -/
def WireError.isOutage : WireError → Bool
  | connectionClosed | closedMidLine _ | closedMidChunk _ _ | timeout | transport _ => true
  | lineTooLong _ _ | chunkTooLarge _ _ => true
  | _ => false

/-- Failures of the transport are outages, whatever they are called. -/
theorem WireError.isOutage_ofFault (fault : Fault) : (WireError.ofFault fault).isOutage = true := by
  -- Every kind of fault becomes an error of the transport.
  unfold ofFault
  cases fault.kind <;> rfl

/-- The bytes that deliveries bring before the first failure and before the end of the stream. -/
def Delivery.flow : List Delivery → Bytes
  | [] => []
  | .bytes [] _ :: _ => []
  | .bytes (b :: bs) _ :: later => (b :: bs) ++ flow later
  -- An interrupted read is repeated, so it stops nothing.
  | .fault why :: later => if why.kind = .interrupted then flow later else []

/-- Nothing comes that is not brought. -/
theorem Delivery.flow_prefix (deliveries : List Delivery) :
    flow deliveries <+: deliveries.flatMap content := by
  -- What lies behind a failure is brought as well, but does not come before it.
  induction deliveries with
  | nil => exact List.prefix_refl _
  | cons delivery later ih =>
    cases delivery with
    | fault why =>
      simp only [flow]
      split
      · exact ih
      · exact List.nil_prefix
    | bytes piece fits =>
      cases piece with
      | nil => exact List.nil_prefix
      | cons b bs => exact (List.prefix_append_right_inj (b :: bs)).mpr ih

/-- How many bytes are at hand whenever a read begins, from so many on, as long as reads bring
some. -/
def Delivery.amounts (count : Nat) : List Delivery → List Nat
  | [] => [count]
  | .bytes [] _ :: _ => [count]
  | .bytes (b :: bs) _ :: later => count :: amounts (count + (b :: bs).length) later
  | .fault why :: later => if why.kind = .interrupted then amounts count later else [count]

/-- The first read begins with what is at hand. -/
theorem Delivery.self_mem_amounts (count : Nat) (deliveries : List Delivery) :
    count ∈ amounts count deliveries := by
  -- By induction on the deliveries, since an interruption counts nothing.
  induction deliveries with
  | nil => simp [amounts]
  | cons delivery later ih =>
    cases delivery with
    | fault why =>
      simp only [amounts]
      split
      · exact ih
      · simp
    | bytes piece fits => cases piece <;> simp [amounts]

/-- What stands before the line end of longer bytes is a front of the line itself. -/
theorem front_of_free {piece later line rest : Bytes} (free : Line.feed ∉ piece)
    (whole : piece ++ later = line ++ Line.feed :: rest) :
    ∃ more, line = piece ++ more ∧ later = more ++ Line.feed :: rest := by
  -- One of the two fronts continues the other.
  rcases List.append_eq_append_iff.mp whole with ⟨more, front, back⟩ | ⟨more, front, back⟩
  · exact ⟨more, front, back⟩
  · cases more with
    | nil => exact ⟨[], by simpa using front.symm, by simpa using back.symm⟩
    | cons c more =>
      -- The line end would lie within the piece.
      simp only [List.cons_append, List.cons.injEq] at back
      exact absurd (by simp [front, back.1]) free

/-- Bytes split in one way at their first line end. -/
theorem split_of_free {left right before after : Bytes} (leftFree : Line.feed ∉ left)
    (rightFree : Line.feed ∉ right)
    (whole : left ++ Line.feed :: before = right ++ Line.feed :: after) :
    left = right ∧ before = after := by
  obtain ⟨more, rfl, tail⟩ := front_of_free leftFree whole
  -- Nothing can stand between the ends of the two lines.
  cases more with
  | nil => simpa using tail
  | cons c more =>
    simp only [List.cons_append, List.cons.injEq] at tail
    exact absurd (by simp [tail.1]) rightFree

/-- A line that comes is waited for, unless a read begins with too many bytes and none of them its
end. -/
theorem awaitLine_flow {ending : Ending} {seen line rest : Bytes} {count : Nat}
    {deliveries : List Delivery} (free : Line.feed ∉ line)
    (ends : ∀ amount ∈ Delivery.amounts count deliveries, Line.maxLength < amount →
      count + line.length < amount)
    (comes : Delivery.flow deliveries = line ++ Line.feed :: rest) :
    ∃ left source, awaitLine ending seen count deliveries
        = .complete (seen.reverse ++ line) left source ∧
      left ++ Delivery.flow source.deliveries = rest := by
  -- Each piece without a line end is the front of what is still missing of the line.
  induction deliveries generalizing seen count line with
  | nil => simp [Delivery.flow] at comes
  | cons delivery later ih =>
    cases delivery with
    | fault fault =>
      simp only [Delivery.flow] at comes
      -- Only an interrupted read is followed by anything.
      split at comes
      · rename_i interrupted
        simp only [Delivery.amounts, interrupted, if_true] at ends
        simpa only [awaitLine, interrupted, if_true] using ih free ends comes
      · simp at comes
    | bytes piece fits =>
      cases piece with
      | nil => simp [Delivery.flow] at comes
      | cons b bs =>
        simp only [Delivery.flow] at comes
        cases cut : cutLine? (b :: bs) with
        | some parts =>
          obtain ⟨head, tail⟩ := parts
          -- The piece holds the line end, so the line is complete.
          rw [cutLine?_eq_some cut, List.append_assoc, List.cons_append] at comes
          obtain ⟨rfl, rfl⟩ := split_of_free (cutLine?_free cut) free comes
          exact ⟨tail, ⟨later, ending⟩, by simp [awaitLine, cut], rfl⟩
        | none =>
          have uncut : Line.feed ∉ b :: bs := cutLine?_eq_none_iff.mp cut
          -- What comes later holds the line end, so the whole piece lies before it.
          obtain ⟨more, rfl, tail⟩ := front_of_free uncut comes
          rw [List.length_append] at ends
          have next := ends _ (List.mem_cons_of_mem _ (Delivery.self_mem_amounts _ later))
          obtain ⟨left, source, found, behind⟩ := @ih ((b :: bs).reverse ++ seen) more
            (count + (b :: bs).length) (fun member => free (by simp [member]))
            (fun amount member exceeds => by
              have := ends amount (List.mem_cons_of_mem _ member) exceeds
              omega)
            tail
          refine ⟨left, source, ?_, behind⟩
          simp only [awaitLine, cut]
          rw [if_neg (by omega), found]
          simp

/-- Bytes that come are waited for, in whatever pieces they come. -/
theorem awaitExact_flow {ending : Ending} {seen wanted rest : Bytes} {deliveries : List Delivery}
    (some : wanted ≠ []) (comes : Delivery.flow deliveries = wanted ++ rest) :
    ∃ left source, awaitExact ending seen wanted.length deliveries
        = .complete (seen.reverse ++ wanted) left source ∧
      left ++ Delivery.flow source.deliveries = rest := by
  -- Each piece is the front of what is still missing, until one holds all of it.
  induction deliveries generalizing seen wanted with
  | nil =>
    have none : wanted ++ rest = [] := comes.symm
    exact absurd (List.append_eq_nil_iff.mp none).1 some
  | cons delivery later ih =>
    cases delivery with
    | fault fault =>
      simp only [Delivery.flow] at comes
      split at comes
      · rename_i interrupted
        simpa only [awaitExact, interrupted, if_true] using ih some comes
      · exact absurd (List.append_eq_nil_iff.mp comes.symm).1 some
    | bytes piece fits =>
      cases piece with
      | nil => exact absurd (List.append_eq_nil_iff.mp comes.symm).1 some
      | cons b bs =>
        simp only [Delivery.flow] at comes
        simp only [awaitExact]
        rcases List.append_eq_append_iff.mp comes with ⟨more, same, tail⟩ | ⟨left, same, tail⟩
        · subst same
          by_cases last : more = []
          · -- The piece is exactly what was missing.
            subst last
            refine ⟨[], ⟨later, ending⟩, ?_, tail⟩
            rw [List.append_nil, if_pos (Nat.le_refl _), List.take_length, List.drop_length]
          · have few : ¬((b :: bs) ++ more).length ≤ (b :: bs).length := by
              have := List.length_pos_iff.mpr last
              rw [List.length_append]
              omega
            have missing : ((b :: bs) ++ more).length - (b :: bs).length = more.length := by
              rw [List.length_append]
              omega
            obtain ⟨left, source, found, behind⟩ :=
              @ih ((b :: bs).reverse ++ seen) more last tail
            refine ⟨left, source, ?_, behind⟩
            rw [if_neg few, missing, found]
            simp
        · -- The piece goes on behind what was missing.
          refine ⟨left, ⟨later, ending⟩, ?_, tail.symm⟩
          rw [same, if_pos (by simp), List.take_left, List.drop_left]

namespace Reader

/-- The bytes that reads can still meet before a failure or the end of the stream. -/
def coming (r : Reader) : Bytes :=
  r.buffer ++ Delivery.flow r.source.deliveries

/-- All that comes is unread. -/
theorem coming_prefix (r : Reader) : r.coming <+: r.unread :=
  -- What comes is the buffer and the part of the deliveries up to a failure.
  (List.prefix_append_right_inj r.buffer).mpr (Delivery.flow_prefix r.source.deliveries)

/-- How many bytes are at hand whenever a read begins, as long as reads bring some. -/
def amounts (r : Reader) : List Nat :=
  Delivery.amounts r.buffer.length r.source.deliveries

/-- A line that comes is read, and what follows it still comes, unless a read begins with too many
bytes and none of them its end. -/
theorem readLineBytes_comes {r : Reader} {line rest : Bytes} (free : Line.feed ∉ line)
    (ends : ∀ amount ∈ r.amounts, Line.maxLength < amount → line.length < amount)
    (comes : r.coming = line ++ Line.feed :: rest) :
    ∃ after, readLineBytes r = (.ok (dropCarriageReturn line), after) ∧ after.coming = rest := by
  simp only [coming] at comes
  cases cut : cutLine? r.buffer with
  | some parts =>
    obtain ⟨head, tail⟩ := parts
    -- The line was there before anything was read.
    rw [cutLine?_eq_some cut, List.append_assoc, List.cons_append] at comes
    obtain ⟨rfl, rfl⟩ := split_of_free (cutLine?_free cut) free comes
    exact ⟨r.resume tail r.source, by simp [readLineBytes, cut], rfl⟩
  | none =>
    have uncut : Line.feed ∉ r.buffer := cutLine?_eq_none_iff.mp cut
    -- The buffer holds the beginning of the line and nothing else.
    obtain ⟨more, rfl, later⟩ := front_of_free uncut comes
    rw [List.length_append] at ends
    have first := ends _ (Delivery.self_mem_amounts _ _)
    obtain ⟨left, source, found, behind⟩ := @awaitLine_flow r.source.ending
      r.buffer.reverse more rest r.buffer.length r.source.deliveries
      (fun member => free (by simp [member])) ends later
    refine ⟨r.resume left source, ?_, behind⟩
    simp only [readLineBytes, cut]
    rw [if_neg (by omega), found, List.reverse_reverse]

/-- A line within the limit that comes is read, and what follows it still comes. -/
theorem readLineBytes_coming {r : Reader} {line rest : Bytes} (free : Line.feed ∉ line)
    (short : line.length ≤ Line.maxLength) (comes : r.coming = line ++ Line.feed :: rest) :
    ∃ after, readLineBytes r = (.ok (dropCarriageReturn line), after) ∧ after.coming = rest :=
  -- A line within the limit never has more at hand than allowed when a read begins.
  readLineBytes_comes free (fun _ _ exceeds => Nat.lt_of_le_of_lt short exceeds) comes

/-- What a wait for a line makes of a reader. -/
def lineAfter (r : Reader) : Wait LineStop → Except WireError Bytes × Reader
  | .complete line rest source => (.ok (dropCarriageReturn line), r.resume rest source)
  | .stopped (.overlong size) buffered source =>
    (.error (.lineTooLong size Line.maxLength), r.resume buffered source)
  | .stopped (.stop (.fault fault)) buffered source =>
    (.error (.ofFault fault), r.resume buffered source)
  | .stopped (.stop .closed) buffered source =>
    (.error (if buffered = [] then .connectionClosed else .closedMidLine (r.encoding.decode buffered)),
      r.resume [] source)

/-- What a wait for bytes makes of a reader that was asked for so many. -/
def exactAfter (length : Nat) (r : Reader) : Wait Stop → Except WireError Bytes × Reader
  | .complete bytes rest source => (.ok bytes, r.resume rest source)
  | .stopped (.fault fault) buffered source => (.error (.ofFault fault), r.resume buffered source)
  | .stopped .closed buffered source =>
    (.error (.closedMidChunk length buffered.length), r.resume [] source)

/-- A line that has arrived is read. -/
theorem readLineBytes_of_cut {r : Reader} {line rest : Bytes}
    (cut : cutLine? r.buffer = some (line, rest)) :
    readLineBytes r = (.ok (dropCarriageReturn line), r.resume rest r.source) := by
  -- The line is cut from the buffer, and the source is left alone.
  simp only [readLineBytes, cut]

/-- The beginning of a line that is too long is not waited for. -/
theorem readLineBytes_of_long {r : Reader} (free : Line.feed ∉ r.buffer)
    (long : Line.maxLength < r.buffer.length) :
    readLineBytes r = (.error (.lineTooLong r.buffer.length Line.maxLength), r) := by
  -- No line feed is at hand, and the length is looked at before the source is.
  simp only [readLineBytes, cutLine?_eq_none_iff.mpr free]
  rw [if_pos long]

/-- A line that has not arrived is waited for. -/
theorem readLineBytes_of_free {r : Reader} (free : Line.feed ∉ r.buffer)
    (fits : r.buffer.length ≤ Line.maxLength) :
    readLineBytes r = r.lineAfter
      (awaitLine r.source.ending r.buffer.reverse r.buffer.length r.source.deliveries) := by
  -- No line feed is at hand, and the length is within the limit.
  simp only [readLineBytes, cutLine?_eq_none_iff.mpr free]
  rw [if_neg (Nat.not_lt.mpr fits)]
  rfl

/-- Too many bytes are not asked for. -/
theorem readExact_of_large {r : Reader} {length : Nat} (large : Chunk.maxSize < length) :
    readExact length r = (.error (.chunkTooLarge length Chunk.maxSize), r) := by
  -- The length is looked at before anything else.
  simp only [readExact]
  rw [if_pos large]

/-- Bytes that have arrived are read. -/
theorem readExact_of_enough {r : Reader} {length : Nat} (small : length ≤ Chunk.maxSize)
    (enough : length ≤ r.buffer.length) :
    readExact length r = (.ok (r.buffer.take length), r.resume (r.buffer.drop length) r.source) := by
  -- The bytes are taken off the front of the buffer.
  simp only [readExact]
  rw [if_neg (Nat.not_lt.mpr small), if_pos enough]

/-- Bytes that have not arrived are waited for. -/
theorem readExact_of_few {r : Reader} {length : Nat} (small : length ≤ Chunk.maxSize)
    (few : r.buffer.length < length) :
    readExact length r = r.exactAfter length (awaitExact r.source.ending r.buffer.reverse
      (length - r.buffer.length) r.source.deliveries) := by
  -- What is missing is the length without what is at hand.
  simp only [readExact]
  rw [if_neg (Nat.not_lt.mpr small), if_neg (Nat.not_le.mpr few)]
  rfl

/-- Reading a line keeps the encoding. -/
@[simp] theorem readLineBytes_encoding (r : Reader) :
    (readLineBytes r).2.encoding = r.encoding := by
  -- Every way out of a read puts other bytes into the same reader.
  simp only [readLineBytes]
  split
  · rfl
  · split
    · rfl
    · split <;> rfl

/-- A line that cannot be read is missing for an outage. -/
theorem readLineBytes_error {r after : Reader} {e : WireError}
    (read : readLineBytes r = (.error e, after)) : e.isOutage = true := by
  simp only [readLineBytes] at read
  -- Each way out without a line is a limit or a failure of the transport.
  split at read
  · simp at read
  · split at read
    · cases read
      rfl
    · split at read
      · simp at read
      · cases read
        rfl
      · cases read
        exact WireError.isOutage_ofFault _
      · cases read
        split <;> rfl

/-- The text of a line that was read is that of the bytes at the front, up to a line end. -/
theorem readLine_ok {r after : Reader} {text : Text} (read : readLine r = (.ok text, after)) :
    ∃ raw, Line.feed ∉ raw ∧ r.encoding.decode (dropCarriageReturn raw) = text ∧
      r.unread = raw ++ Line.feed :: after.unread ∧ after.encoding = r.encoding := by
  simp only [readLine] at read
  split at read
  · rename_i line next found
    have kept := readLineBytes_encoding r
    -- The text is decoded in the encoding that was there before.
    rw [found] at kept
    obtain ⟨raw, free, same, front⟩ := readLineBytes_ok found
    cases read
    exact ⟨raw, free, by rw [same, ← kept], front, kept⟩
  · simp at read

/-- A line of text that cannot be read is missing for an outage. -/
theorem readLine_error {r after : Reader} {e : WireError}
    (read : readLine r = (.error e, after)) : e.isOutage = true := by
  -- The bytes failed already, since the text is only made of them.
  simp only [readLine] at read
  split at read
  · simp at read
  · rename_i found
    cases read
    exact readLineBytes_error found

/-- Waiting for bytes gives as many as were missing. -/
theorem awaitExact_length {ending : Ending} {seen bytes rest : Bytes} {missing : Nat}
    {deliveries : List Delivery} {source : Source}
    (found : awaitExact ending seen missing deliveries = .complete bytes rest source) :
    bytes.length = seen.length + missing := by
  -- What is at hand and what is missing are the same in sum from piece to piece.
  induction deliveries generalizing seen missing with
  | nil => simp [awaitExact] at found
  | cons delivery later ih =>
    cases delivery with
    | fault fault =>
      simp only [awaitExact] at found
      split at found
      · exact ih found
      · simp at found
    | bytes piece fits =>
      cases piece with
      | nil => simp [awaitExact] at found
      | cons b bs =>
        simp only [awaitExact] at found
        split at found
        · rename_i enough
          simp only [Wait.complete.injEq] at found
          rw [← found.1, List.length_append, List.length_reverse, List.length_take]
          omega
        · rename_i few
          -- The whole piece is taken, and so much less is missing.
          have := ih found
          simp only [List.length_append, List.length_reverse] at this
          omega

/-- Reading bytes keeps the encoding. -/
@[simp] theorem readExact_encoding (r : Reader) (length : Nat) :
    (readExact length r).2.encoding = r.encoding := by
  -- As with lines, only the bytes of the reader change.
  simp only [readExact]
  split
  · rfl
  · split
    · rfl
    · split <;> rfl

/-- Bytes that were read are as many as were asked for. -/
theorem readExact_length {r after : Reader} {length : Nat} {bytes : Bytes}
    (read : readExact length r = (.ok bytes, after)) : bytes.length = length := by
  simp only [readExact] at read
  split at read
  · simp at read
  · split at read
    · rename_i enough
      cases read
      simp [enough]
    · rename_i few
      split at read
      · rename_i found
        cases read
        -- What was at hand and what was missing make up the whole.
        have := awaitExact_length found
        simp only [List.length_reverse] at this
        omega
      all_goals simp at read

/-- Bytes within the limit that come are read, and what follows them still comes. -/
theorem readExact_coming {r : Reader} {bytes rest : Bytes} (small : bytes.length ≤ Chunk.maxSize)
    (comes : r.coming = bytes ++ rest) :
    ∃ after, readExact bytes.length r = (.ok bytes, after) ∧ after.coming = rest := by
  have fits : ¬Chunk.maxSize < bytes.length := by omega
  simp only [coming] at comes
  simp only [readExact, if_neg fits]
  rcases List.append_eq_append_iff.mp comes with ⟨more, same, tail⟩ | ⟨left, same, tail⟩
  · subst same
    by_cases none : more = []
    · -- The bytes are all that had arrived.
      subst none
      refine ⟨r.resume [] r.source, ?_, tail⟩
      rw [List.append_nil, if_pos (Nat.le_refl _), List.take_length, List.drop_length]
    · -- The buffer holds the first of the bytes, and the others are waited for.
      have few : ¬(r.buffer ++ more).length ≤ r.buffer.length := by
        have := List.length_pos_iff.mpr none
        rw [List.length_append]
        omega
      have missing : (r.buffer ++ more).length - r.buffer.length = more.length := by
        rw [List.length_append]
        omega
      obtain ⟨left, source, found, behind⟩ := @awaitExact_flow r.source.ending r.buffer.reverse
        more rest r.source.deliveries none tail
      refine ⟨r.resume left source, ?_, behind⟩
      rw [if_neg few, missing, found, List.reverse_reverse]
  · -- More than the bytes had arrived.
    refine ⟨r.resume left r.source, ?_, tail.symm⟩
    rw [same, if_pos (by simp), List.take_left, List.drop_left]

/-- Bytes that cannot be read are missing for an outage. -/
theorem readExact_error {r after : Reader} {length : Nat} {e : WireError}
    (read : readExact length r = (.error e, after)) : e.isOutage = true := by
  simp only [readExact] at read
  -- A limit comes first, and then what the transport meets.
  split at read
  · cases read
    rfl
  · split at read
    · simp at read
    · split at read
      · simp at read
      · cases read
        exact WireError.isOutage_ofFault _
      · cases read
        rfl

end Reader
end AmigaRemote
