import AmigaRemote.Proofs.Wire.Conservation
import AmigaRemote.Proofs.Wire.Expected

/-! A reading that fails has not taken a whole frame. Where a frame stands first, more than what is
behind it is left unread. -/

namespace AmigaRemote

/-- A reading that takes less than the frame that stands first if it fails. -/
def FallsShort {α : Type} (reading : Reading α) (Frame : Encoding → α → Bytes → Prop) : Prop :=
  ∀ ⦃r after : Reader⦄ ⦃e : WireError⦄ ⦃a : α⦄ ⦃frame rest : Bytes⦄,
    reading r = (.error e, after) → Frame r.encoding a frame → r.unread = frame ++ rest →
      rest.length < after.unread.length

namespace Reader

/-- A line that is not read is not taken. -/
theorem readLine_fallsShort : FallsShort readLine LineFrame := by
  intro r after e text frame rest failed isLine whole
  have failed : readLineBytes r = (.error e, after) := by
    simp only [readLine] at failed
    split at failed
    · cases failed
    · rename_i found
      cases failed
      exact found
  obtain ⟨lost, free, lostWhole⟩ := (readLineBytes_spares failed).2
  obtain ⟨raw, _, _, rfl⟩ := isLine
  rw [lostWhole] at whole
  -- What is lost holds no line end, so it ends within the line.
  rcases List.append_eq_append_iff.mp whole with ⟨more, front, behind⟩ | ⟨more, front, _⟩
  · have lengths := congrArg List.length behind
    cases more with
    | nil =>
      rw [List.append_nil] at front
      exact absurd (by simp [← front]) free
    | cons b more =>
      rw [List.length_append, List.length_cons] at lengths
      omega
  · exact absurd (by simp [front]) free

/-- A status line that is not read is not taken. -/
theorem readStatus_fallsShort : FallsShort readStatus StatusFrame := by
  rintro r after e parts frame rest failed ⟨line, isLine, parsed⟩ whole
  rcases Step.bind_eq_error.mp failed with failed | ⟨read, next, found, failed⟩
  · exact readLine_fallsShort failed isLine whole
  · -- The line that was read is the status line, which is understood.
    obtain ⟨rfl, _, _⟩ := readLine_expected isLine (by rw [List.append_nil, whole]) found
    rw [Step.ofExcept_apply, parsed] at failed
    cases failed

/-- A sentinel that is missed is not taken. -/
theorem expectSentinel_fallsShort :
    FallsShort expectSentinel fun encoding _ frame => LineFrame encoding Line.sentinel frame := by
  intro r after e _ frame rest failed isLine whole
  -- The line itself is missed, or it is another line, which it cannot be.
  rcases Step.bind_eq_error.mp failed with failed | ⟨read, next, found, failed⟩
  · exact readLine_fallsShort failed isLine whole
  · obtain ⟨rfl, _, _⟩ := readLine_expected isLine (by rw [List.append_nil, whole]) found
    simp at failed

/-- Payload lines that are not read up to the sentinel are not all taken. -/
theorem readLinesAfter_fallsShort {lines more : List Text} {r after : Reader} {e : WireError}
    {frame rest : Bytes} (failed : readLinesAfter lines r = (.error e, after))
    (payload : PayloadFrame r.encoding more frame) (whole : r.unread = frame ++ rest) :
    rest.length < after.unread.length := by
  -- Each line that was read is the next one of the payload.
  fun_induction readLinesAfter lines r generalizing more frame with
  | case1 lines r e next found =>
    cases failed
    cases payload with
    | sentinel last => exact readLine_fallsShort found last whole
    | line head notLast tail =>
      rw [List.append_assoc] at whole
      have short := readLine_fallsShort found head whole
      rw [List.length_append] at short
      omega
  | case2 => cases failed
  | case3 lines r line next found notLast shorter ih =>
    cases payload with
    | sentinel last =>
      exact absurd (readLine_expected last (by rw [List.append_nil, whole]) found).1 notLast
    | line head _ tail =>
      rw [List.append_assoc] at whole
      obtain ⟨_, behind, kept⟩ := readLine_expected head (by rw [List.append_nil, whole]) found
      rw [List.append_nil] at behind
      exact ih failed (kept ▸ tail) behind

/-- A response that is not read up to its end is not taken. -/
theorem readResponse_fallsShort : FallsShort readResponse ResponseFrame := by
  intro r after e response frame rest failed isFrame whole
  generalize same : r.encoding = encoding at isFrame
  obtain ⟨head, payload⟩ := isFrame
  subst same
  rw [List.append_assoc] at whole
  rcases Step.bind_eq_error.mp failed with failed | ⟨parts, next, found, failed⟩
  · have short := readStatus_fallsShort failed head whole
    rw [List.length_append] at short
    omega
  · -- Behind the status line only the payload can be missing.
    obtain ⟨status, isStatus, front, kept⟩ := readStatus_takes found
    rw [whole] at front
    obtain ⟨_, _, behind⟩ := StatusFrame.unambiguous head isStatus front
    rcases Step.bind_eq_error.mp failed with failed | ⟨_, _, _, failed⟩
    · exact readLinesAfter_fallsShort failed (kept ▸ payload) behind.symm
    · cases failed

end Reader
end AmigaRemote
