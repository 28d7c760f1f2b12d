import AmigaRemote.Proofs.Step
import AmigaRemote.Wire.Frame

/-! What every reading keeps: whatever the bytes of a line and other bytes that are read keep. -/

namespace AmigaRemote.Reader

/-- A property of readers that is kept by the two ways to take bytes. -/
structure Preserved (property : Reader → Prop) : Prop where
  line : Step.Keeps property readLineBytes
  bytes : ∀ length, Step.Keeps property (readExact length)

namespace Preserved

variable {property : Reader → Prop}

/-- To understand what was read reads nothing. -/
theorem ofExcept {α : Type} (result : Except WireError α) :
    Step.Keeps property (Step.ofExcept result) :=
  -- No state is looked at.
  fun _ holds => holds

/-- A line is its bytes. -/
theorem readLine (preserved : Preserved property) : Step.Keeps property readLine := by
  intro r holds
  have kept := preserved.line holds
  simp only [Reader.readLine]
  -- All ways out leave the reader of the bytes.
  split
  all_goals
    rename_i found
    rw [found] at kept
    exact kept

/-- A status line is a line. -/
theorem readStatus (preserved : Preserved property) : Step.Keeps property readStatus :=
  -- Understanding it reads nothing more.
  preserved.readLine.bind fun _ => ofExcept _

/-- The sentinel is a line. -/
theorem expectSentinel (preserved : Preserved property) : Step.Keeps property expectSentinel := by
  refine preserved.readLine.bind fun line => ?_
  -- To judge the line reads nothing more.
  split
  · exact (Step.Still.throw _).keeps
  · exact .pure _

/-- Payload lines are lines. -/
theorem readLinesAfter (preserved : Preserved property) (lines : List Text) :
    Step.Keeps property (readLinesAfter lines) := by
  intro r holds
  have kept := preserved.readLine holds
  -- Each line is read as the one before it left the reader.
  fun_induction Reader.readLinesAfter lines r with
  | case1 lines r e next found =>
    rw [found] at kept
    exact kept
  | case2 lines r next found =>
    rw [found] at kept
    exact kept
  | case3 lines r line next found notLast shorter ih =>
    rw [found] at kept
    exact ih kept (preserved.readLine kept)

/-- A response is a status line and payload lines. -/
theorem readResponse (preserved : Preserved property) : Step.Keeps property readResponse :=
  -- The two parts keep it in turn.
  preserved.readStatus.bind fun _ => (preserved.readLinesAfter []).bind fun _ => .pure _

/-- A step of a transfer is a line and what it promises. -/
theorem readChunk (preserved : Preserved property) : Step.Keeps property readChunk := by
  -- The header tells what else is read: a body, a sentinel, or nothing.
  refine preserved.readLine.bind fun line => (ofExcept _).bind fun header => ?_
  cases header with
  | some length => exact (preserved.bytes length).bind fun _ => .pure _
  | none =>
    by_cases isEnd : line = Chunk.endLine
    · simp only [isEnd, if_true]
      exact preserved.expectSentinel.bind fun _ => .pure _
    · simp only [isEnd, if_false]
      split
      · exact preserved.expectSentinel.bind fun _ => .pure _
      · exact (Step.Still.throw _).keeps

/-- A transfer is its steps. -/
theorem readTransferAfter (preserved : Preserved property) (info : Text) (chunks : List Bytes) :
    Step.Keeps property (readTransferAfter info chunks) := by
  intro r holds
  have kept := preserved.readChunk holds
  -- By induction on the transfer, each step keeping the property for the next.
  fun_induction Reader.readTransferAfter info chunks r with
  | case1 chunks r e next found =>
    rw [found] at kept
    exact kept
  | case2 chunks r bytes next found shorter ih =>
    rw [found] at kept
    exact ih kept (preserved.readChunk kept)
  | case3 chunks r next found =>
    rw [found] at kept
    exact kept
  | case4 chunks r e next found =>
    rw [found] at kept
    exact kept

/-- A response that carries data is a status line and a transfer, or else lines. -/
theorem readChunkedResponse (preserved : Preserved property) :
    Step.Keeps property readChunkedResponse := by
  -- A success is followed by a transfer, an error by lines.
  refine preserved.readStatus.bind fun parts => ?_
  rcases parts with ⟨_ | _, info⟩
  · exact preserved.readTransferAfter info []
  · exact (preserved.readLinesAfter []).bind fun _ => .pure _

end Preserved
end AmigaRemote.Reader
