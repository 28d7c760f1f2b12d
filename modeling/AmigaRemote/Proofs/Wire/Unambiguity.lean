import AmigaRemote.Proofs.Text.Words
import AmigaRemote.Proofs.Wire.Framing

/-! Frames tell by themselves where they end and what they say, whatever follows them. -/

namespace AmigaRemote

/-- A kind of frame of which no two stand at the front of the same bytes. -/
def Unambiguous {α : Type} (Frame : Encoding → α → Bytes → Prop) : Prop :=
  ∀ ⦃encoding : Encoding⦄ ⦃a b : α⦄ ⦃first second before after : Bytes⦄,
    Frame encoding a first → Frame encoding b second → first ++ before = second ++ after →
      a = b ∧ first = second ∧ before = after

/-- A line ends at its line end. -/
theorem LineFrame.unambiguous : Unambiguous LineFrame := by
  rintro encoding _ _ _ _ before after ⟨raw, free, rfl, rfl⟩ ⟨raw', free', rfl, rfl⟩ whole
  simp only [List.append_assoc, List.cons_append, List.nil_append] at whole
  -- Neither line goes on past the first line end.
  obtain ⟨rfl, rfl⟩ := split_of_free free free' whole
  exact ⟨rfl, rfl, rfl⟩

/-- A status line ends at its line end. -/
theorem StatusFrame.unambiguous : Unambiguous StatusFrame := by
  rintro encoding a b first second before after ⟨line, isLine, parsed⟩ ⟨line', isLine', parsed'⟩
    whole
  obtain ⟨rfl, rfl, rfl⟩ := LineFrame.unambiguous isLine isLine' whole
  -- One line is understood in one way only.
  rw [parsed] at parsed'
  cases parsed'
  exact ⟨rfl, rfl, rfl⟩

/-- A payload ends at its first sentinel. -/
theorem PayloadFrame.unambiguous : Unambiguous PayloadFrame := by
  intro encoding a b first second before after isLeft isRight whole
  -- The induction is on the lines of the first payload, which the second has to follow.
  induction isLeft generalizing b second with
  | sentinel last =>
    cases isRight with
    | sentinel last' =>
      obtain ⟨_, rfl, rfl⟩ := LineFrame.unambiguous last last' whole
      exact ⟨rfl, rfl, rfl⟩
    | line head notLast tail =>
      -- One payload would go on where the other has its sentinel.
      rw [List.append_assoc] at whole
      exact absurd (LineFrame.unambiguous last head whole).1.symm notLast
  | line head notLast tail ih =>
    cases isRight with
    | sentinel last' =>
      rw [List.append_assoc] at whole
      exact absurd (LineFrame.unambiguous head last' whole).1 notLast
    | line head' notLast' tail' =>
      -- The first lines are the same, and so is what follows them.
      simp only [List.append_assoc] at whole
      obtain ⟨rfl, rfl, rest⟩ := LineFrame.unambiguous head head' whole
      obtain ⟨rfl, rfl, rfl⟩ := ih tail' rest
      exact ⟨rfl, rfl, rfl⟩

/-- A response that carries lines ends at its sentinel. -/
theorem ResponseFrame.unambiguous : Unambiguous ResponseFrame := by
  rintro encoding _ _ _ _ before after ⟨head, payload⟩ ⟨head', payload'⟩ whole
  simp only [List.append_assoc] at whole
  -- The status lines end alike, so the payloads begin alike.
  obtain ⟨same, rfl, rest⟩ := StatusFrame.unambiguous head head' whole
  obtain ⟨rfl, rfl, rfl⟩ := PayloadFrame.unambiguous payload payload' rest
  cases same
  exact ⟨rfl, rfl, rfl⟩

/-- An error ends at its sentinel. -/
theorem RefusalFrame.unambiguous : Unambiguous RefusalFrame := by
  rintro encoding _ _ _ _ before after ⟨head, sentinel⟩ ⟨head', sentinel'⟩ whole
  simp only [List.append_assoc] at whole
  -- The error lines end alike, so the sentinels begin alike.
  obtain ⟨same, rfl, rest⟩ := StatusFrame.unambiguous head head' whole
  obtain ⟨_, rfl, rfl⟩ := LineFrame.unambiguous sentinel sentinel' rest
  cases same
  exact ⟨rfl, rfl, rfl⟩

/-- An error line is no chunk header. -/
theorem Chunk.parseHeader_of_err {line info : Text}
    (isError : Status.parseLine line = .ok (.err, info)) : Chunk.parseHeader line = .ok none := by
  rcases line with _ | ⟨c, rest⟩
  · rfl
  · by_cases lead : c = 'D'
    · -- What begins like a header begins like no status line.
      subst lead
      cases isError
    · have other : Text.after? (c :: rest) Chunk.lead = none :=
        Text.after?_cons_of_ne (Ne.symm lead)
      rw [Chunk.parseHeader, other]

/-- The end line is no error line. -/
theorem Chunk.endLine_ne {line info : Text} (isError : Status.parseLine line = .ok (.err, info)) :
    line ≠ Chunk.endLine := by
  rintro rfl
  -- The end line begins with no word of a verdict.
  cases isError

/-- A step of a transfer tells from its first line what it is. -/
theorem ChunkFrame.unambiguous : Unambiguous ChunkFrame := by
  intro encoding a b first second before after isLeft isRight whole
  -- Both begin with the same line, and no line is the first one of two kinds of steps.
  cases isLeft with
  | data head length =>
    cases isRight with
    | data head' length' =>
      simp only [List.append_assoc] at whole
      obtain ⟨rfl, rfl, rest⟩ := LineFrame.unambiguous head head' whole
      -- The header says how many bytes belong to it.
      rw [length] at length'
      obtain ⟨rfl, rfl⟩ := List.append_inj rest (by simpa using length')
      exact ⟨rfl, rfl, rfl⟩
    | ended head' _ =>
      simp only [List.append_assoc] at whole
      obtain ⟨rfl, _, _⟩ := LineFrame.unambiguous head head' whole
      cases length
    | aborted refusal =>
      obtain ⟨⟨line, head', isError⟩, _⟩ := refusal
      simp only [List.append_assoc] at whole
      obtain ⟨rfl, _, _⟩ := LineFrame.unambiguous head head' whole
      rw [Chunk.parseHeader_of_err isError] at length
      cases length
  | ended head sentinel =>
    cases isRight with
    | data head' length' =>
      simp only [List.append_assoc] at whole
      obtain ⟨rfl, _, _⟩ := LineFrame.unambiguous head head' whole
      cases length'
    | ended head' sentinel' =>
      simp only [List.append_assoc] at whole
      obtain ⟨_, rfl, rest⟩ := LineFrame.unambiguous head head' whole
      obtain ⟨_, rfl, rfl⟩ := LineFrame.unambiguous sentinel sentinel' rest
      exact ⟨rfl, rfl, rfl⟩
    | aborted refusal =>
      obtain ⟨⟨line, head', isError⟩, _⟩ := refusal
      simp only [List.append_assoc] at whole
      obtain ⟨same, _, _⟩ := LineFrame.unambiguous head head' whole
      exact absurd same.symm (Chunk.endLine_ne isError)
  | aborted refusal =>
    cases isRight with
    | data head' length' =>
      obtain ⟨⟨line, head, isError⟩, _⟩ := refusal
      simp only [List.append_assoc] at whole
      obtain ⟨rfl, _, _⟩ := LineFrame.unambiguous head head' whole
      rw [Chunk.parseHeader_of_err isError] at length'
      cases length'
    | ended head' _ =>
      obtain ⟨⟨line, head, isError⟩, _⟩ := refusal
      simp only [List.append_assoc] at whole
      obtain ⟨same, _, _⟩ := LineFrame.unambiguous head head' whole
      exact absurd same (Chunk.endLine_ne isError)
    | aborted refusal' =>
      obtain ⟨rfl, rfl, rfl⟩ := RefusalFrame.unambiguous refusal refusal' whole
      exact ⟨rfl, rfl, rfl⟩

end AmigaRemote
