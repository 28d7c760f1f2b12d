import AmigaRemote.Proofs.Step
import AmigaRemote.Proofs.Wire.Reading

/-! Reading from a source that brings all its bytes and then ends. What is read are the first bytes
of all that are unread, unless too many of them arrive without a line end. -/

namespace AmigaRemote

/-- Deliveries that bring all their bytes: nothing fails but by an interruption, and no read comes
without bytes as long as there are some. -/
def Delivery.Reliable : List Delivery → Prop
  | [] => True
  | .bytes piece _ :: later => (piece = [] → later.flatMap content = []) ∧ Reliable later
  | .fault why :: later => why.kind = .interrupted ∧ Reliable later

instance Delivery.decidableReliable : (deliveries : List Delivery) → Decidable (Reliable deliveries)
  | [] => .isTrue trivial
  | .bytes piece _ :: later =>
    have := decidableReliable later
    inferInstanceAs (Decidable ((piece = [] → later.flatMap content = []) ∧ Reliable later))
  | .fault why :: later =>
    have := decidableReliable later
    inferInstanceAs (Decidable (why.kind = .interrupted ∧ Reliable later))

/-- A source that brings all its bytes, in whatever pieces, and then ends. -/
structure Source.Reliable (s : Source) : Prop where
  deliveries : Delivery.Reliable s.deliveries
  ending : s.ending = .closed

/-- All that a reliable source has comes before anything fails. -/
theorem Delivery.flow_of_reliable {deliveries : List Delivery} (reliable : Reliable deliveries) :
    flow deliveries = deliveries.flatMap content := by
  -- Only an empty piece or a failure could keep bytes back.
  induction deliveries with
  | nil => rfl
  | cons delivery later ih =>
    cases delivery with
    | fault why =>
      obtain ⟨interrupted, rest⟩ := reliable
      simp [flow, content, interrupted, ih rest]
    | bytes piece fits =>
      obtain ⟨last, rest⟩ := reliable
      cases piece with
      | nil => simp [flow, content, last rfl]
      | cons b bs => simp [flow, content, ih rest]

/-- What a wait leaves of the source. -/
def Wait.source {ε : Type} : Wait ε → Source
  | complete _ _ source => source
  | stopped _ _ source => source

/-- Waiting for a line takes nothing from the reliability of a source. -/
theorem awaitLine_reliable {seen : Bytes} {count : Nat} {deliveries : List Delivery}
    (reliable : Delivery.Reliable deliveries) :
    (awaitLine .closed seen count deliveries).source.Reliable := by
  induction deliveries generalizing seen count with
  | nil => exact ⟨trivial, rfl⟩
  | cons delivery later ih =>
    cases delivery with
    | fault why =>
      obtain ⟨interrupted, rest⟩ := reliable
      simp only [awaitLine, interrupted, if_true]
      exact ih rest
    | bytes piece fits =>
      obtain ⟨_, rest⟩ := reliable
      cases piece with
      | nil => exact ⟨rest, rfl⟩
      | cons b bs =>
        simp only [awaitLine]
        -- The wait ends with this piece, or goes on behind it.
        split
        · exact ⟨rest, rfl⟩
        · split
          · exact ⟨rest, rfl⟩
          · exact ih rest

/-- A wait for a line on a reliable source stops within the limit only at the end of the stream,
once all bytes have come and none of them is a line end. -/
theorem awaitLine_ended {seen buffered : Bytes} {count : Nat} {deliveries : List Delivery}
    {why : Stop} {source : Source} (reliable : Delivery.Reliable deliveries)
    (free : Line.feed ∉ seen)
    (ended : awaitLine .closed seen count deliveries = .stopped (.stop why) buffered source) :
    why = .closed ∧ buffered = seen.reverse ++ deliveries.flatMap Delivery.content ∧
      source.content = [] ∧ Line.feed ∉ buffered := by
  induction deliveries generalizing seen count with
  | nil =>
    cases ended
    exact ⟨rfl, by simp, rfl, fun member => free (List.mem_reverse.mp member)⟩
  | cons delivery later ih =>
    cases delivery with
    | fault fault =>
      obtain ⟨interrupted, rest⟩ := reliable
      simp only [awaitLine, interrupted, if_true] at ended
      simpa [Delivery.content] using ih rest free ended
    | bytes piece fits =>
      obtain ⟨last, rest⟩ := reliable
      cases piece with
      | nil =>
        -- A read without bytes ends the stream, and nothing was to come after it.
        cases ended
        exact ⟨rfl, by simp [Delivery.content, last rfl], last rfl,
          fun member => free (List.mem_reverse.mp member)⟩
      | cons b bs =>
        simp only [awaitLine] at ended
        split at ended
        · cases ended
        · rename_i uncut
          split at ended
          · cases ended
          · -- The piece joins the bytes at hand, which still hold no line end.
            have none := cutLine?_eq_none_iff.mp uncut
            have freeNow : Line.feed ∉ (b :: bs).reverse ++ seen := by
              simp only [List.mem_append, List.mem_reverse, not_or]
              exact ⟨none, free⟩
            simpa [Delivery.content] using ih rest freeNow ended

/-- A line is given up only once more bytes have come than a line may have. -/
theorem awaitLine_overlong {ending : Ending} {seen buffered : Bytes} {count size : Nat}
    {deliveries : List Delivery} {source : Source}
    (given : awaitLine ending seen count deliveries = .stopped (.overlong size) buffered source) :
    Line.maxLength < count + (deliveries.flatMap Delivery.content).length := by
  induction deliveries generalizing seen count with
  | nil => cases given
  | cons delivery later ih =>
    rw [List.flatMap_cons, List.length_append]
    cases delivery with
    | fault fault =>
      simp only [awaitLine] at given
      split at given
      · have := ih given
        omega
      · cases given
    | bytes piece fits =>
      cases piece with
      | nil => cases given
      | cons b bs =>
        simp only [awaitLine] at given
        change _ < count + ((b :: bs).length + _)
        split at given
        · cases given
        · split at given
          · -- The piece is the one with which too many have come.
            omega
          · have := ih given
            omega

/-- Waiting for bytes takes nothing from the reliability of a source. -/
theorem awaitExact_reliable {seen : Bytes} {missing : Nat} {deliveries : List Delivery}
    (reliable : Delivery.Reliable deliveries) :
    (awaitExact .closed seen missing deliveries).source.Reliable := by
  -- By induction on the deliveries: what is left of them is reliable as well.
  induction deliveries generalizing seen missing with
  | nil => exact ⟨trivial, rfl⟩
  | cons delivery later ih =>
    cases delivery with
    | fault why =>
      obtain ⟨interrupted, rest⟩ := reliable
      simp only [awaitExact, interrupted, if_true]
      exact ih rest
    | bytes piece fits =>
      obtain ⟨_, rest⟩ := reliable
      cases piece with
      | nil => exact ⟨rest, rfl⟩
      | cons b bs =>
        simp only [awaitExact]
        split
        · exact ⟨rest, rfl⟩
        · exact ih rest

/-- A wait for bytes on a reliable source stops only at the end of the stream, once all bytes have
come and they are too few. -/
theorem awaitExact_ended {seen buffered : Bytes} {missing : Nat} {deliveries : List Delivery}
    {why : Stop} {source : Source} (reliable : Delivery.Reliable deliveries)
    (some : 0 < missing)
    (ended : awaitExact .closed seen missing deliveries = .stopped why buffered source) :
    why = .closed ∧ buffered = seen.reverse ++ deliveries.flatMap Delivery.content ∧
      source.content = [] ∧ buffered.length < seen.length + missing := by
  induction deliveries generalizing seen missing with
  | nil =>
    cases ended
    refine ⟨rfl, by simp, rfl, ?_⟩
    rw [List.length_reverse]
    omega
  | cons delivery later ih =>
    cases delivery with
    | fault fault =>
      obtain ⟨interrupted, rest⟩ := reliable
      simp only [awaitExact, interrupted, if_true] at ended
      simpa [Delivery.content] using ih rest some ended
    | bytes piece fits =>
      obtain ⟨last, rest⟩ := reliable
      cases piece with
      | nil =>
        cases ended
        refine ⟨rfl, by simp [Delivery.content, last rfl], last rfl, ?_⟩
        rw [List.length_reverse]
        omega
      | cons b bs =>
        simp only [awaitExact] at ended
        split at ended
        · cases ended
        · rename_i few
          -- So much less is missing as the piece has brought.
          obtain ⟨why, whole, nothing, short⟩ := ih rest (by omega) ended
          refine ⟨why, by simpa [Delivery.content] using whole, nothing, ?_⟩
          rw [List.length_append, List.length_reverse] at short
          omega

/-- Whether a line was given up because too many bytes had arrived without its end. -/
def tooLong {α : Type} : Except WireError α → Bool
  | .error (.lineTooLong _ _) => true
  | _ => false

/-- The line that bytes begin with, and the bytes behind it, if nothing comes after the bytes. What
is left of a line at the end is discarded. -/
def firstLine (encoding : Encoding) (bytes : Bytes) : Except WireError Bytes × Bytes :=
  match cutLine? bytes with
  | some (line, rest) => (.ok (dropCarriageReturn line), rest)
  | none =>
    (.error (if bytes = [] then .connectionClosed else .closedMidLine (encoding.decode bytes)), [])

/-- The bytes that bytes begin with, so many of them, and those behind them, if nothing comes after.
Too few are discarded, and too many not asked for. -/
def firstBytes (length : Nat) (bytes : Bytes) : Except WireError Bytes × Bytes :=
  if Chunk.maxSize < length then (.error (.chunkTooLarge length Chunk.maxSize), bytes)
  else if length ≤ bytes.length then (.ok (bytes.take length), bytes.drop length)
  else (.error (.closedMidChunk length bytes.length), [])

/-- Bytes are cut at their first line end. -/
theorem cutLine?_append {line rest : Bytes} (free : Line.feed ∉ line) :
    cutLine? (line ++ Line.feed :: rest) = some (line, rest) := by
  cases cut : cutLine? (line ++ Line.feed :: rest) with
  | none =>
    -- There is a line end to cut at.
    exact absurd (by simp) (cutLine?_eq_none_iff.mp cut)
  | some parts =>
    obtain ⟨head, tail⟩ := parts
    obtain ⟨rfl, rfl⟩ := split_of_free (cutLine?_free cut) free (cutLine?_eq_some cut).symm
    rfl

namespace Reader

/-- From a reliable source a line is read as the unread bytes begin with it, however they arrive,
unless too many of them arrive without a line end. -/
theorem readLineBytes_reliable {r : Reader} (reliable : r.source.Reliable) :
    (readLineBytes r).2.source.Reliable ∧
      (tooLong (readLineBytes r).1 = true ∨
        ((readLineBytes r).1, (readLineBytes r).2.unread) = firstLine r.encoding r.unread) := by
  obtain ⟨deliveries, ending⟩ := reliable
  cases cut : cutLine? r.buffer with
  | some parts =>
    obtain ⟨line, rest⟩ := parts
    -- The line was there before anything was read.
    have whole : cutLine? r.unread = some (line, rest ++ r.source.content) := by
      have front : r.unread = line ++ Line.feed :: (rest ++ r.source.content) := by
        simp [unread, cutLine?_eq_some cut]
      rw [front, cutLine?_append (cutLine?_free cut)]
    simp only [readLineBytes, cut, firstLine, whole]
    exact ⟨⟨deliveries, ending⟩, .inr rfl⟩
  | none =>
    have free : Line.feed ∉ r.buffer.reverse := by simpa using cutLine?_eq_none_iff.mp cut
    simp only [readLineBytes, cut, ending]
    by_cases long : Line.maxLength < r.buffer.length
    · rw [if_pos long]
      exact ⟨⟨deliveries, ending⟩, .inl rfl⟩
    · rw [if_neg long]
      have kept := @awaitLine_reliable r.buffer.reverse r.buffer.length _ deliveries
      have all : r.unread = r.buffer ++ r.source.deliveries.flatMap Delivery.content := rfl
      cases found : awaitLine .closed r.buffer.reverse r.buffer.length r.source.deliveries with
      | complete line rest source =>
        rw [found] at kept
        have front := awaitLine_complete found
        rw [List.reverse_reverse, ← all] at front
        have whole : cutLine? r.unread = some (line, rest ++ source.content) := by
          rw [front, cutLine?_append (awaitLine_free free found)]
        simp only [firstLine, whole]
        exact ⟨kept, .inr rfl⟩
      | stopped why buffered source =>
        rw [found] at kept
        cases why with
        | overlong size => exact ⟨kept, .inl rfl⟩
        | stop why =>
          obtain ⟨rfl, front, nothing, none⟩ := awaitLine_ended deliveries free found
          rw [List.reverse_reverse, ← all] at front
          subst front
          -- All bytes have come, and none of them ends the line.
          have uncut := cutLine?_eq_none_iff.mpr none
          have left : (r.resume [] source).unread = [] := nothing
          simp only [firstLine, uncut, left]
          exact ⟨kept, .inr trivial⟩

/-- Reading a line takes nothing from the reliability of a source. -/
theorem readLine_keepsReliable : Step.Keeps (fun r : Reader => r.source.Reliable) readLine := by
  intro r reliable
  have kept := (readLineBytes_reliable reliable).1
  simp only [readLine]
  -- All ways out leave the reader of the bytes.
  split
  all_goals
    rename_i found
    rw [found] at kept
    exact kept

/-- A line is given up only where more bytes are unread than a line may have. -/
theorem maxLength_lt_of_tooLong {r : Reader} (long : tooLong (readLineBytes r).1 = true) :
    Line.maxLength < r.unread.length := by
  have all : r.unread.length = r.buffer.length
      + (r.source.deliveries.flatMap Delivery.content).length := List.length_append
  simp only [readLineBytes] at long
  split at long
  · cases long
  · split at long
    · -- Enough of them had arrived before.
      omega
    · split at long
      · cases long
      · rename_i given
        have := awaitLine_overlong given
        omega
      · rename_i fault _ _ _
        unfold WireError.ofFault at long
        split at long
        all_goals cases long
      · split at long
        all_goals cases long

/-- Once nothing is unread, a reliable source says that it has ended. -/
theorem readLine_ended {r : Reader} (reliable : r.source.Reliable) (nothing : r.unread = []) :
    ∃ after, readLine r = (.error .connectionClosed, after) ∧ after.unread = [] := by
  rcases (readLineBytes_reliable reliable).2 with long | same
  · -- No bytes are not too many.
    have := maxLength_lt_of_tooLong long
    rw [nothing] at this
    cases this
  · rw [nothing] at same
    rcases found : readLineBytes r with ⟨outcome, after⟩
    rw [found] at same
    obtain ⟨closed, empty⟩ := Prod.mk.inj same
    have closed : outcome = .error .connectionClosed := closed
    subst closed
    exact ⟨after, by simp only [readLine, found], empty⟩

/-- From a reliable source as many bytes are read as the unread ones begin with, however they
arrive. -/
theorem readExact_reliable {r : Reader} (reliable : r.source.Reliable) (length : Nat) :
    (readExact length r).2.source.Reliable ∧
      ((readExact length r).1, (readExact length r).2.unread) = firstBytes length r.unread := by
  obtain ⟨deliveries, ending⟩ := reliable
  by_cases large : Chunk.maxSize < length
  · simp only [readExact, firstBytes, if_pos large]
    exact ⟨⟨deliveries, ending⟩, trivial⟩
  · have all : r.unread = r.buffer ++ r.source.deliveries.flatMap Delivery.content := rfl
    have many : r.buffer.length ≤ r.unread.length := by
      rw [all, List.length_append]
      omega
    by_cases enough : length ≤ r.buffer.length
    · -- The bytes were there before anything was read.
      have whole : length ≤ r.unread.length := by omega
      simp only [readExact, firstBytes, if_neg large, if_pos enough, if_pos whole]
      refine ⟨⟨deliveries, ending⟩, ?_⟩
      simp [unread, resume, List.take_append_of_le_length enough,
        List.drop_append_of_le_length enough]
    · simp only [readExact, firstBytes, if_neg large, if_neg enough, ending]
      have kept := @awaitExact_reliable r.buffer.reverse (length - r.buffer.length) _ deliveries
      cases found : awaitExact .closed r.buffer.reverse (length - r.buffer.length)
          r.source.deliveries with
      | complete bytes rest source =>
        rw [found] at kept
        have front := awaitExact_complete found
        have size := awaitExact_length found
        rw [List.reverse_reverse, ← all] at front
        rw [List.length_reverse] at size
        have size : bytes.length = length := by omega
        have whole : length ≤ r.unread.length := by
          rw [front, List.length_append]
          omega
        rw [if_pos whole, front, ← size, List.take_left, List.drop_left]
        exact ⟨kept, rfl⟩
      | stopped why buffered source =>
        rw [found] at kept
        obtain ⟨rfl, front, nothing, short⟩ := awaitExact_ended deliveries (by omega) found
        rw [List.reverse_reverse, ← all] at front
        rw [List.length_reverse] at short
        subst front
        have few : ¬length ≤ r.unread.length := by omega
        rw [if_neg few]
        exact ⟨kept, by simp [unread, resume, nothing]⟩

/-- Before a failure a reliable source brings all that is unread. -/
theorem coming_of_reliable {r : Reader} (reliable : r.source.Reliable) : r.coming = r.unread := by
  -- A reliable source has no failure, up to which less could come.
  simp only [coming, unread, Source.content, Delivery.flow_of_reliable reliable.deliveries]

end Reader
end AmigaRemote
