import AmigaRemote.Proofs.Wire.Keeping
import AmigaRemote.Proofs.Wire.Unambiguity

/-! Where the bytes that are unread, together with some that are still to come, begin with a frame,
only an outage keeps the frame from being read. -/

namespace AmigaRemote

/-- A reading that takes the frame that stands first, and fails only for an outage. -/
def Reads {α : Type} (reading : Reading α) (Frame : Encoding → α → Bytes → Prop) : Prop :=
  ∀ ⦃r : Reader⦄ ⦃a : α⦄ ⦃frame rest later : Bytes⦄, Frame r.encoding a frame →
    r.unread ++ later = frame ++ rest →
      (∃ after, reading r = (.ok a, after) ∧ after.unread ++ later = rest ∧
        after.encoding = r.encoding) ∨
      ∃ e after, reading r = (.error e, after) ∧ e.isOutage = true

/-- A reading that takes unambiguous frames reads them if nothing but an outage makes it fail. -/
theorem reads_of_takes {α : Type} {reading : Reading α} {Frame : Encoding → α → Bytes → Prop}
    (takes : Takes reading Frame) (unambiguous : Unambiguous Frame)
    (outages : ∀ ⦃r after : Reader⦄ ⦃e : WireError⦄ ⦃a : α⦄ ⦃frame rest later : Bytes⦄,
      Frame r.encoding a frame → r.unread ++ later = frame ++ rest →
        reading r = (.error e, after) → e.isOutage = true) : Reads reading Frame := by
  intro r a frame rest later isFrame whole
  rcases found : reading r with ⟨e | b, after⟩
  · exact .inr ⟨e, after, rfl, outages isFrame whole found⟩
  · -- The frame that was taken is the one that stands first.
    obtain ⟨taken, isTaken, front, kept⟩ := takes found
    rw [front, List.append_assoc] at whole
    obtain ⟨rfl, rfl, rfl⟩ := unambiguous isTaken isFrame whole
    exact .inl ⟨after, rfl, rfl, kept⟩

namespace Reader

/-- A line that stands first is read. -/
theorem readLine_reads : Reads readLine LineFrame :=
  -- What a line takes is unambiguous, and nothing but an outage keeps it from being read.
  reads_of_takes readLine_takes LineFrame.unambiguous fun _ _ _ _ _ _ _ _ _ => readLine_error

/-- A status line that stands first is read. -/
theorem readStatus_reads : Reads readStatus StatusFrame := by
  refine reads_of_takes readStatus_takes StatusFrame.unambiguous ?_
  -- What can fail is the line, or what is made of it.
  rintro r after e parts frame rest later ⟨line, isLine, parsed⟩ whole failed
  rcases readLine_reads isLine whole with ⟨next, read, _, _⟩ | ⟨e', next, read, outage⟩
  · -- The line is understood, so nothing has failed.
    unfold readStatus at failed
    rw [Step.bind_apply, read] at failed
    simp [parsed] at failed
  · unfold readStatus at failed
    rw [Step.bind_apply, read] at failed
    cases failed
    exact outage

/-- Payload lines fail for an outage only. -/
theorem readLinesAfter_error {lines : List Text} {r after : Reader} {e : WireError}
    (failed : readLinesAfter lines r = (.error e, after)) : e.isOutage = true := by
  -- Whatever line is read, more lines or the result follow.
  have line : FailsWith (fun e _ => e.isOutage = true) readLine := fun _ _ _ => readLine_error
  exact line.readLinesAfter lines failed

/-- A response that stands first is read. -/
theorem readResponse_reads : Reads readResponse ResponseFrame := by
  refine reads_of_takes readResponse_takes ResponseFrame.unambiguous ?_
  intro r after e response frame rest later isFrame whole failed
  -- The frame is taken apart for whatever encoding the reader has.
  generalize same : r.encoding = encoding at isFrame
  cases isFrame with
  | lines head payload =>
    subst same
    rw [List.append_assoc] at whole
    unfold readResponse at failed
    rcases readStatus_reads head whole with ⟨next, read, _, _⟩ | ⟨e', next, read, outage⟩
    · -- Behind the status line only a missing line can make the reading fail.
      rw [Step.bind_apply, read] at failed
      rcases Step.bind_eq_error.mp failed with failed | ⟨_, _, _, failed⟩
      · exact readLinesAfter_error failed
      · simp at failed
    · rw [Step.bind_apply, read] at failed
      cases failed
      exact outage

/-- A sentinel that stands first is read. -/
theorem expectSentinel_outage {r after : Reader} {e : WireError} {frame rest later : Bytes}
    (isSentinel : LineFrame r.encoding Line.sentinel frame)
    (whole : r.unread ++ later = frame ++ rest) (failed : expectSentinel r = (.error e, after)) :
    e.isOutage = true := by
  unfold expectSentinel at failed
  rcases readLine_reads isSentinel whole with ⟨next, read, _, _⟩ | ⟨e', next, read, outage⟩
  · rw [Step.bind_apply, read] at failed
    -- The line is the sentinel, and it is accepted.
    simp at failed
  · rw [Step.bind_apply, read] at failed
    cases failed
    exact outage

/-- A line that was read is the one that stands first. -/
theorem readLine_expected {r next : Reader} {text line : Text} {frame rest later : Bytes}
    (isLine : LineFrame r.encoding text frame) (whole : r.unread ++ later = frame ++ rest)
    (read : readLine r = (.ok line, next)) :
    line = text ∧ next.unread ++ later = rest ∧ next.encoding = r.encoding := by
  rcases readLine_reads isLine whole with ⟨_, read', behind, kept⟩ | ⟨_, _, read', _⟩
  -- What was read successfully is the reading that is known.
  all_goals
    rw [read] at read'
    cases read'
  exact ⟨rfl, behind, kept⟩

/-- A step of a transfer that stands first is read. -/
theorem readChunk_reads : Reads readChunk ChunkFrame := by
  refine reads_of_takes readChunk_takes ChunkFrame.unambiguous ?_
  intro r after e chunk frame rest later isFrame whole failed
  rcases Step.bind_eq_error.mp failed with failed | ⟨line, next, read, failed⟩
  · exact readLine_error failed
  -- The line that was read is the first one of the frame, and is understood.
  generalize same : r.encoding = encoding at isFrame
  cases isFrame with
  | data head length =>
    subst same
    rw [List.append_assoc] at whole
    obtain ⟨rfl, _, _⟩ := readLine_expected head whole read
    rcases Step.bind_eq_error.mp failed with failed | ⟨header, same, parsed, failed⟩
    · -- The header is a good one, and only its bytes may be missing.
      rw [Step.ofExcept_apply, length] at failed
      cases failed
    · rw [Step.ofExcept_apply, length] at parsed
      cases parsed
      rcases Step.bind_eq_error.mp failed with failed | ⟨_, _, _, failed⟩
      · exact readExact_error failed
      · simp at failed
  | ended head sentinel =>
    subst same
    rw [List.append_assoc] at whole
    obtain ⟨rfl, behind, kept⟩ := readLine_expected head whole read
    rw [← kept] at sentinel
    rcases Step.bind_eq_error.mp failed with failed | ⟨header, same, parsed, failed⟩
    · cases failed
    · cases parsed
      rcases Step.bind_eq_error.mp failed with failed | ⟨_, _, _, failed⟩
      · exact expectSentinel_outage sentinel behind failed
      · simp at failed
  | aborted refusal =>
    subst same
    obtain ⟨⟨_, head, isError⟩, sentinel⟩ := refusal
    rw [List.append_assoc] at whole
    obtain ⟨rfl, behind, kept⟩ := readLine_expected head whole read
    rw [← kept] at sentinel
    rcases Step.bind_eq_error.mp failed with failed | ⟨header, same, parsed, failed⟩
    · -- An error line is neither a header nor the end, so the sentinel follows it.
      rw [Step.ofExcept_apply, Chunk.parseHeader_of_err isError] at failed
      cases failed
    · rw [Step.ofExcept_apply, Chunk.parseHeader_of_err isError] at parsed
      cases parsed
      simp only [Chunk.endLine_ne isError, if_false, isError] at failed
      rcases Step.bind_eq_error.mp failed with failed | ⟨_, _, _, failed⟩
      · exact expectSentinel_outage sentinel behind failed
      · simp at failed

section Encodings

variable {encoding : Encoding}

/-- No reading changes the encoding. -/
theorem encoding_preserved : Preserved fun r => r.encoding = encoding where
  -- Neither of the two readings of the source writes the encoding.
  line := fun r same => (readLineBytes_encoding r).trans same
  bytes := fun length r same => (readExact_encoding r length).trans same

/-- Reading a response keeps the encoding. -/
theorem readResponse_keeps : Step.Keeps (fun r => r.encoding = encoding) readResponse :=
  -- It is made of these two readings.
  encoding_preserved.readResponse

/-- Reading a step of a transfer keeps the encoding. -/
theorem readChunk_keeps : Step.Keeps (fun r => r.encoding = encoding) readChunk :=
  -- As is a step of a transfer.
  encoding_preserved.readChunk

end Encodings

end Reader
end AmigaRemote
