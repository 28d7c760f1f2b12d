import AmigaRemote.Proofs.Cli.Completion

/-! What goes to the standard output of all that a run shows, and which files it writes. -/

namespace AmigaRemote.Cli

namespace Emission

/-- The bytes that go to the standard output. -/
def toOutput : Emission → Bytes
  | output bytes => bytes
  | remark _ | file _ _ => []

/-- The file that is written, with its content. -/
def toFile? : Emission → Option (Path × Bytes)
  | file path content => some (path, content)
  | output _ | remark _ => none

end Emission

/-- All that goes to the standard output. -/
def standardOutput (shown : List Emission) : Bytes :=
  shown.flatMap Emission.toOutput

/-- All files that are written, each with its content. -/
def filesWritten (shown : List Emission) : List (Path × Bytes) :=
  shown.filterMap Emission.toFile?

/-- Bytes are all that is brought: they go to the standard output, and no file is written. -/
structure Brings (shown : List Emission) (bytes : Bytes) : Prop where
  output : standardOutput shown = bytes
  files : filesWritten shown = []

namespace Brings

variable {shown later : List Emission} {bytes more : Bytes}

/-- To show nothing brings nothing. -/
theorem nothing : Brings [] [] :=
  -- There is nothing in the list to go anywhere.
  ⟨rfl, rfl⟩

/-- A remark brings nothing. -/
theorem mention (line : Text) : Brings [mention line] [] :=
  -- A remark goes to where errors go.
  ⟨rfl, rfl⟩

/-- Data is brought as it is. -/
theorem data (bytes : Bytes) : Brings [.output bytes] bytes :=
  -- The bytes are the only ones, so nothing is put behind them.
  ⟨List.append_nil _, rfl⟩

/-- What is brought later stands behind what was brought before. -/
theorem append (first : Brings shown bytes) (second : Brings later more) :
    Brings (shown ++ later) (bytes ++ more) := by
  -- Both what goes to the output and which files are written is collected in order.
  obtain ⟨output, files⟩ := first
  obtain ⟨output', files'⟩ := second
  constructor
  · rw [← output, ← output']
    exact List.flatMap_append
  · have whole : filesWritten (shown ++ later) = filesWritten shown ++ filesWritten later :=
      List.filterMap_append
    rw [whole, files, files', List.append_nil]

/-- What a run shows next stands in front of what it has shown, which it keeps last first. -/
theorem next (before : Brings shown.reverse bytes) (now : Brings later more) :
    Brings (later.reverse ++ shown).reverse (bytes ++ more) := by
  -- Reversed once more, the list is what was shown and then what is shown now.
  rw [List.reverse_append, List.reverse_reverse]
  exact before.append now

/-- To tell of a failure brings nothing. -/
theorem failure (m : Manner) (failure? : Option Failure) :
    Brings (failure?.toList.map m.failure) [] := by
  -- What is told of a failure is one remark.
  cases failure? with
  | none => exact .nothing
  | some failure => exact .mention _

end Brings

namespace Manner

/-- A document, or what is shown to people instead, writes no file. -/
theorem document_unwritten (m : Manner) (value : JsonValue) (lines : List Text) :
    filesWritten (m.document value lines) = [] := by
  -- In either manner only lines are shown.
  unfold document
  split
  · rfl
  · exact List.filterMap_eq_nil_iff.mpr (by simp [say, Emission.toFile?])

variable {m : Manner} (plain : m.json = false)
include plain

/-- Data of an event is brought to people as it is. -/
theorem event_data (bytes : Bytes) : Brings (m.event (.data bytes)) bytes := by
  -- As above, an event with data is its bytes.
  simp only [event, plain]
  exact .data bytes

/-- An event without data brings nothing to people. -/
theorem event_other {e : StreamEvent} (other : ∀ bytes, e ≠ .data bytes) :
    Brings (m.event e) [] := by
  -- What is said about an event is a remark, and about an error nothing is said here.
  simp only [event, plain]
  cases e with
  | data bytes => exact absurd rfl (other bytes)
  | comment text => exact .mention _
  | ended => exact .mention _
  | aborted error => exact .nothing

end Manner

/-- The last words of a run bring no more than what was shown before. -/
theorem Run.lastWords_brings {r : Run} {bytes : Bytes} (before : Brings r.shown.reverse bytes)
    (verdict : Verdict) : Brings (r.lastWords verdict) bytes := by
  -- The words of a failure bring nothing, and they are all that comes last.
  have whole := before.append (.failure r.manner verdict.failure)
  rwa [List.append_nil] at whole

end AmigaRemote.Cli
