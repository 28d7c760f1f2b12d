import AmigaRemote.Proofs.Wire.Reading

/-! No byte is lost between reads, whether they succeed or fail, but what is at hand when the stream
ends in the middle of what was asked for. -/

namespace AmigaRemote

/-- A wait for a line that stops has taken no byte away. Those at hand are still there, and what
joined them holds no line end. -/
theorem awaitLine_stopped {ending : Ending} {seen buffered : Bytes} {count : Nat}
    {deliveries : List Delivery} {why : LineStop} {source : Source}
    (stopped : awaitLine ending seen count deliveries = .stopped why buffered source) :
    seen.reverse ++ deliveries.flatMap Delivery.content = buffered ++ source.content ∧
      seen.reverse <+: buffered ∧ (Line.feed ∉ seen → Line.feed ∉ buffered) := by
  -- Every piece without a line end joins those at hand.
  induction deliveries generalizing seen count with
  | nil =>
    cases stopped
    exact ⟨by simp [Source.content], List.prefix_refl _, fun free => by simpa using free⟩
  | cons delivery later ih =>
    cases delivery with
    | fault fault =>
      simp only [awaitLine] at stopped
      split at stopped
      · exact ih stopped
      · cases stopped
        exact ⟨by simp [Source.content, Delivery.content], List.prefix_refl _,
          fun free => by simpa using free⟩
    | bytes piece fits =>
      cases piece with
      | nil =>
        cases stopped
        exact ⟨by simp [Source.content, Delivery.content], List.prefix_refl _,
          fun free => by simpa using free⟩
      | cons b bs =>
        simp only [awaitLine] at stopped
        split at stopped
        · cases stopped
        · rename_i uncut
          have none : Line.feed ∉ b :: bs := cutLine?_eq_none_iff.mp uncut
          split at stopped
          · cases stopped
            exact ⟨by simp [Source.content, Delivery.content], by simp,
              fun free => by simpa [free] using none⟩
          · obtain ⟨whole, front, free'⟩ := ih stopped
            refine ⟨by simpa [Delivery.content] using whole, ?_, fun free => free' ?_⟩
            · refine List.IsPrefix.trans ?_ front
              simp
            · simpa [free, and_comm] using none

/-- A wait for bytes that stops has taken no byte away. Those at hand are still there, and they are
too few. -/
theorem awaitExact_stopped {ending : Ending} {seen buffered : Bytes} {missing : Nat}
    {deliveries : List Delivery} {why : Stop} {source : Source} (some : 0 < missing)
    (stopped : awaitExact ending seen missing deliveries = .stopped why buffered source) :
    seen.reverse ++ deliveries.flatMap Delivery.content = buffered ++ source.content ∧
      seen.reverse <+: buffered ∧ buffered.length < seen.length + missing := by
  induction deliveries generalizing seen missing with
  | nil =>
    cases stopped
    exact ⟨by simp [Source.content], List.prefix_refl _, by simpa using some⟩
  | cons delivery later ih =>
    cases delivery with
    | fault fault =>
      simp only [awaitExact] at stopped
      split at stopped
      · exact ih some stopped
      · cases stopped
        exact ⟨by simp [Source.content, Delivery.content], List.prefix_refl _, by simpa using some⟩
    | bytes piece fits =>
      cases piece with
      | nil =>
        cases stopped
        exact ⟨by simp [Source.content, Delivery.content], List.prefix_refl _, by simpa using some⟩
      | cons b bs =>
        simp only [awaitExact] at stopped
        split at stopped
        · cases stopped
        · rename_i few
          -- So much less is missing as the piece has brought.
          obtain ⟨whole, front, short⟩ := ih (by omega) stopped
          refine ⟨by simpa [Delivery.content] using whole, ?_, ?_⟩
          · refine List.IsPrefix.trans ?_ front
            simp
          · simp only [List.length_append, List.length_reverse] at short
            omega

/-- The failures with which bytes are lost, and what they tell of them. -/
inductive WireError.Discards (encoding : Encoding) : WireError → Bytes → Prop where
  /-- The beginning of a line that does not end. -/
  | midLine {lost : Bytes} (some : lost ≠ []) (free : Line.feed ∉ lost) :
    Discards encoding (.closedMidLine (encoding.decode lost)) lost
  /-- Fewer bytes than were asked for. -/
  | midChunk {expected : Nat} {lost : Bytes} (few : lost.length < expected) :
    Discards encoding (.closedMidChunk expected lost.length) lost

/-- Whether a failure is one with which bytes are lost. -/
def WireError.discards : WireError → Bool
  | closedMidLine _ | closedMidChunk _ _ => true
  | _ => false

/-- No failure of the transport is one with which bytes are lost. -/
theorem WireError.discards_ofFault (fault : Fault) : (WireError.ofFault fault).discards = false := by
  -- Whatever its kind is, a fault is put into an error of the transport.
  unfold ofFault
  cases fault.kind <;> rfl

/-- What a read that fails leaves of a reader. -/
inductive Reader.Spares (r : Reader) (e : WireError) (after : Reader) : Prop where
  /-- All bytes, arrived or not. -/
  | all (keeps : e.discards = false) (same : after.unread = r.unread)
  /-- What has not arrived. All that had arrived is lost, before the read and during it. -/
  | behind {lost : Bytes} (why : e.Discards r.encoding lost) (arrived : r.buffer <+: lost)
    (whole : r.unread = lost ++ after.unread) (emptied : after.buffer = [])

namespace Reader

variable {r after : Reader} {e : WireError}

/-- A line that is not read leaves all bytes, or loses the beginning of a line that does not end. -/
theorem readLineBytes_spares (failed : readLineBytes r = (.error e, after)) :
    r.Spares e after ∧ ∃ lost, Line.feed ∉ lost ∧ r.unread = lost ++ after.unread := by
  -- Where all is left, nothing is lost.
  have all {after : Reader} {e : WireError} (keeps : e.discards = false)
      (same : after.unread = r.unread) :
      r.Spares e after ∧ ∃ lost, Line.feed ∉ lost ∧ r.unread = lost ++ after.unread :=
    ⟨.all keeps same, [], List.not_mem_nil, same.symm⟩
  simp only [readLineBytes] at failed
  split at failed
  · cases failed
  · rename_i uncut
    have free : Line.feed ∉ r.buffer.reverse := by simpa using cutLine?_eq_none_iff.mp uncut
    split at failed
    · cases failed
      exact all rfl rfl
    · split at failed
      · cases failed
      · -- What was too long is kept, so that nothing but the limit is in the way.
        rename_i stopped
        cases failed
        obtain ⟨whole, _, _⟩ := awaitLine_stopped stopped
        rw [List.reverse_reverse] at whole
        exact all rfl whole.symm
      · rename_i stopped
        cases failed
        obtain ⟨whole, _, _⟩ := awaitLine_stopped stopped
        rw [List.reverse_reverse] at whole
        exact all (WireError.discards_ofFault _) whole.symm
      · rename_i buffered source stopped
        cases failed
        obtain ⟨whole, front, same⟩ := awaitLine_stopped stopped
        rw [List.reverse_reverse] at whole front
        by_cases none : buffered = []
        · subst none
          rw [if_pos rfl]
          exact all rfl whole.symm
        · rw [if_neg none]
          exact ⟨.behind (.midLine none (same free)) front whole rfl, buffered, same free, whole⟩

/-- Bytes that are not read are all left, or lost for being too few. -/
theorem readExact_spares {length : Nat} (failed : readExact length r = (.error e, after)) :
    r.Spares e after := by
  simp only [readExact] at failed
  -- With bytes refused nothing was touched; otherwise the wait ended by a fault or by the end of
  -- the stream.
  split at failed
  · cases failed
    exact .all rfl rfl
  · split at failed
    · cases failed
    -- A fault leaves all that had come in the buffer, and the end leaves nothing.
    · rename_i few
      split at failed
      · cases failed
      · rename_i stopped
        cases failed
        obtain ⟨whole, _, _⟩ := awaitExact_stopped (by omega) stopped
        rw [List.reverse_reverse] at whole
        exact .all (WireError.discards_ofFault _) whole.symm
      · rename_i buffered source stopped
        cases failed
        obtain ⟨whole, front, short⟩ := awaitExact_stopped (by omega) stopped
        rw [List.reverse_reverse] at whole front
        rw [List.length_reverse] at short
        exact .behind (.midChunk (by omega)) front whole rfl

end Reader

/-- A read of bytes as they come: those of a line, or so many of them. -/
inductive RawRead where
  | line
  | exact (length : Nat)
  deriving DecidableEq

namespace RawRead

/-- Carries out a read. -/
def perform : RawRead → Reading Bytes
  | line => Reader.readLineBytes
  | exact length => Reader.readExact length

/-- What a read takes for the bytes that it gives. A line is taken with its end, of which a carriage
return is a part. -/
inductive Took : RawRead → Bytes → Bytes → Prop where
  | line {said : Bytes} (free : Line.feed ∉ said)
    (bare : said.getLast? ≠ some Line.carriageReturn) : Took .line said (said ++ [Line.feed])
  | lineReturn {said : Bytes} (free : Line.feed ∉ said) :
    Took .line said (said ++ [Line.carriageReturn, Line.feed])
  | exact (bytes : Bytes) : Took (.exact bytes.length) bytes bytes

/-- A line up to its end is what it says with the end of one of the two kinds. -/
theorem Took.of_dropCarriageReturn {raw : Bytes} (free : Line.feed ∉ raw) :
    Took .line (dropCarriageReturn raw) (raw ++ [Line.feed]) := by
  unfold dropCarriageReturn
  -- Either a carriage return is taken off the end, or there is none.
  split
  · rename_i returned
    obtain ⟨said, rfl⟩ := List.getLast?_eq_some_iff.mp returned
    rw [List.dropLast_concat, List.append_assoc]
    exact .lineReturn fun member => free (List.mem_append_left _ member)
  · rename_i bare
    exact .line free bare

variable {call : RawRead} {r after : Reader} {bytes : Bytes} {e : WireError}

/-- A read that succeeds takes what it gives from the front of what is unread. -/
theorem perform_ok (read : call.perform r = (.ok bytes, after)) :
    ∃ taken, call.Took bytes taken ∧ r.unread = taken ++ after.unread := by
  -- A line takes its line feed along, counted bytes take nothing besides.
  cases call with
  | line =>
    obtain ⟨raw, free, rfl, front⟩ := Reader.readLineBytes_ok read
    exact ⟨raw ++ [Line.feed], .of_dropCarriageReturn free, by simp [front]⟩
  | exact length =>
    obtain rfl := Reader.readExact_length read
    exact ⟨bytes, .exact bytes, Reader.readExact_ok read⟩

/-- A read that fails takes nothing, unless the stream ended within what was asked for. -/
theorem perform_spares (failed : call.perform r = (.error e, after)) : r.Spares e after := by
  -- Both kinds of reads were looked at before.
  cases call with
  | line => exact (Reader.readLineBytes_spares failed).1
  | exact length => exact Reader.readExact_spares failed

end RawRead

/-- Whether a failure says that the stream has ended. -/
def WireError.isEnd : WireError → Bool
  | connectionClosed | closedMidLine _ | closedMidChunk _ _ => true
  | _ => false

/-- No read that leaves the stream going loses anything. -/
theorem Reader.Spares.of_isEnd {r after : Reader} {e : WireError} (spares : r.Spares e after)
    (going : e.isEnd = false) : after.unread = r.unread := by
  -- Bytes are lost only at an end of the stream.
  cases spares with
  | all _ same => exact same
  | behind why => cases why <;> cases going

/-- Carries out reads in order, each whatever became of those before it. -/
def Reader.performAll : List RawRead → Reader → List (Except WireError Bytes) × Reader
  | [], r => ([], r)
  | call :: later, r =>
    let (outcome, next) := call.perform r
    let (outcomes, after) := performAll later next
    (outcome :: outcomes, after)

/-- The bytes that reads with such outcomes have taken, those of the successful ones in order. -/
inductive Delivered : List RawRead → List (Except WireError Bytes) → Bytes → Prop where
  | none : Delivered [] [] []
  | given {call : RawRead} {calls : List RawRead} {outcomes : List (Except WireError Bytes)}
    {bytes taken later : Bytes} (took : call.Took bytes taken)
    (rest : Delivered calls outcomes later) :
    Delivered (call :: calls) (.ok bytes :: outcomes) (taken ++ later)
  | failed {call : RawRead} {calls : List RawRead} {outcomes : List (Except WireError Bytes)}
    {e : WireError} {later : Bytes} (rest : Delivered calls outcomes later) :
    Delivered (call :: calls) (.error e :: outcomes) later

/-- Up to the end of the stream, what was delivered and what is unread are the bytes that were
unread before. -/
theorem Reader.performAll_delivered {calls : List RawRead} {r : Reader}
    (going : ∀ e, .error e ∈ (r.performAll calls).1 → e.isEnd = false) :
    ∃ taken, Delivered calls (r.performAll calls).1 taken ∧
      taken ++ (r.performAll calls).2.unread = r.unread := by
  induction calls generalizing r with
  | nil => exact ⟨[], .none, rfl⟩
  | cons call later ih =>
    rcases made : call.perform r with ⟨outcome, next⟩
    simp only [performAll, made, List.mem_cons] at going ⊢
    obtain ⟨taken, delivered, whole⟩ := ih (r := next) fun e member => going e (.inr member)
    cases outcome with
    | ok bytes =>
      obtain ⟨front, took, before⟩ := RawRead.perform_ok made
      exact ⟨front ++ taken, .given took delivered, by rw [before, List.append_assoc, whole]⟩
    | error e =>
      -- The bytes are all there for the read after this one.
      have same := (RawRead.perform_spares made).of_isEnd (going e (.inl rfl))
      exact ⟨taken, .failed delivered, by rw [whole, same]⟩

end AmigaRemote
