import AmigaRemote.Proofs.Wire.Reading
import AmigaRemote.Wire.Frame

/-! How readings fail: as the two ways to take bytes do, or because what was read is not what was
expected. -/

namespace AmigaRemote

/-- A reading whose failures are all of one kind, said of the failure and of the reader it leaves. -/
def FailsWith {α : Type} (kind : WireError → Reader → Prop) (reading : Reading α) : Prop :=
  ∀ ⦃r after : Reader⦄ ⦃e : WireError⦄, reading r = (.error e, after) → kind e after

/-- Whether a line was read that has no place where it stands. -/
def WireError.isMisread : WireError → Bool
  | unexpectedStatus _ | malformedChunkHeader _ | unexpectedLine _ => true
  | _ => false

/-- A line that is no status line is reported as such. -/
theorem Status.parseLine_error {line : Text} {e : WireError}
    (failed : Status.parseLine line = .error e) : e = .unexpectedStatus line := by
  unfold Status.parseLine at failed
  -- Only the last of the four ways out is a failure.
  split at failed
  · cases failed
  · split at failed
    · cases failed
    · split at failed
      · cases failed
      · split at failed
        · cases failed
        · cases failed
          rfl

/-- A line that promises a length and has none is reported as such. -/
theorem Chunk.parseHeader_error {line : Text} {e : WireError}
    (failed : Chunk.parseHeader line = .error e) : e = .malformedChunkHeader line := by
  unfold Chunk.parseHeader at failed
  -- Only a lead without a length is a failure.
  split at failed
  · cases failed
  · split at failed
    · cases failed
    · cases failed
      rfl

namespace FailsWith

variable {α β : Type} {kind : WireError → Reader → Prop}

/-- A sequence fails as its parts do. -/
theorem bind {x : Reading α} {next : α → Reading β} (first : FailsWith kind x)
    (second : ∀ a, FailsWith kind (next a)) : FailsWith kind (x >>= next) := by
  intro r after e failed
  -- The whole fails where its first part does, or else where its second does.
  rcases Step.bind_eq_error.mp failed with failed | ⟨a, s, _, failed⟩
  · exact first failed
  · exact second a failed

/-- A result that is at hand does not fail. -/
theorem pure (a : α) : FailsWith kind (Pure.pure a : Reading α) := by
  -- There is no failure to speak of.
  intro r after e failed
  cases failed

/-- A failure that is known is of its own kind. -/
theorem throw {e : WireError} (known : ∀ r, kind e r) :
    FailsWith kind (MonadExcept.throw e : Reading α) := by
  intro r after e' failed
  -- It is thrown where the reader stands, wherever that is.
  cases failed
  exact known r

/-- A result known beforehand fails as it does, whatever the reader is. -/
theorem ofExcept {result : Except WireError α} (known : ∀ e r, result = .error e → kind e r) :
    FailsWith kind (Step.ofExcept result : Reading α) := by
  intro r after e failed
  -- The reader is left as it is, and the failure is that of the result.
  exact known e after (Prod.mk.inj failed).1

/-- Payload lines fail as a line does. -/
theorem readLinesAfter (line : FailsWith kind Reader.readLine) (lines : List Text) :
    FailsWith kind (Reader.readLinesAfter lines) := by
  intro r after e failed
  -- The induction is on the lines that are left, whatever lines are at hand.
  fun_induction Reader.readLinesAfter lines r with
  | case1 lines r e next found =>
    cases failed
    exact line found
  | case2 => cases failed
  | case3 lines r line next found notLast shorter ih => exact ih failed

/-- A transfer fails as a step of it does. -/
theorem readTransferAfter (chunk : FailsWith kind Reader.readChunk) (info : Text)
    (chunks : List Bytes) : FailsWith kind (Reader.readTransferAfter info chunks) := by
  intro r after e failed
  -- The induction is on the chunks that are left, whatever chunks are at hand.
  fun_induction Reader.readTransferAfter info chunks r with
  | case1 chunks r e next found =>
    cases failed
    exact chunk found
  | case2 chunks r bytes next found shorter ih => exact ih failed
  | case3 => cases failed
  | case4 => cases failed

end FailsWith

namespace Reader

/-- A kind of failures that has those of the two ways to take bytes, and every line that has no
place where it stands. -/
structure Explained (kind : WireError → Reader → Prop) : Prop where
  line : FailsWith kind readLineBytes
  bytes : ∀ length, FailsWith kind (readExact length)
  misread : ∀ {e : WireError} (r : Reader), e.isMisread = true → kind e r

namespace Explained

variable {kind : WireError → Reader → Prop}

/-- A line fails as its bytes do. -/
theorem readLine (explained : Explained kind) : FailsWith kind readLine := by
  intro r after e failed
  simp only [Reader.readLine] at failed
  -- What is read of a line is decoded, and that does not fail.
  split at failed
  · cases failed
  · rename_i found
    cases failed
    exact explained.line found

/-- A status line fails as a line does, or is none. -/
theorem readStatus (explained : Explained kind) : FailsWith kind readStatus := by
  refine explained.readLine.bind fun line => .ofExcept fun e r failed => ?_
  -- What was read is reported, not what was asked for.
  rw [Status.parseLine_error failed]
  exact explained.misread r rfl

/-- The sentinel fails as a line does, or is another one. -/
theorem expectSentinel (explained : Explained kind) : FailsWith kind expectSentinel := by
  refine explained.readLine.bind fun line => ?_
  -- A line in place of the sentinel has no place there.
  split
  · exact .throw fun r => explained.misread r rfl
  · exact .pure ()

/-- A step of a transfer fails as its header does, or as what that promises. -/
theorem readChunk (explained : Explained kind) : FailsWith kind readChunk := by
  refine explained.readLine.bind fun line => .bind (.ofExcept fun e r failed => ?_) fun header => ?_
  · rw [Chunk.parseHeader_error failed]
    exact explained.misread r rfl
  -- Bytes follow a length. Behind the end, or an error, the sentinel stands.
  · cases header with
    | some length => exact (explained.bytes length).bind fun _ => .pure _
    | none =>
      by_cases isEnd : line = Chunk.endLine
      · simp only [isEnd, if_true]
        exact explained.expectSentinel.bind fun _ => .pure _
      · simp only [isEnd, if_false]
        split
        · exact explained.expectSentinel.bind fun _ => .pure _
        · exact .throw fun r => explained.misread r rfl

/-- A response that carries lines fails as its status line does, or its payload. -/
theorem readResponse (explained : Explained kind) : FailsWith kind readResponse :=
  -- The payload is the lines up to the sentinel, with none gathered before.
  explained.readStatus.bind fun _ => (explained.readLine.readLinesAfter []).bind fun _ => .pure _

/-- A response that carries data fails as its status line does, or as what follows it. -/
theorem readChunkedResponse (explained : Explained kind) : FailsWith kind readChunkedResponse := by
  refine explained.readStatus.bind fun (status, info) => ?_
  -- In place of data an error has lines.
  cases status with
  | err => exact (explained.readLine.readLinesAfter []).bind fun _ => .pure _
  | ok => exact explained.readChunk.readTransferAfter info []

end Explained
end Reader
end AmigaRemote
