import AmigaRemote.Proofs.Wire.LineRoundTrip
import AmigaRemote.Proofs.Wire.Reliability
import AmigaRemote.Wire.Command

/-! The lines of a command as they are sent and as they are received. No text that a command is
given makes a line more or a line less. -/

namespace AmigaRemote

/-- Lines one after the other. -/
inductive LinesFrame (encoding : Encoding) : List Text → Bytes → Prop where
  | nil : LinesFrame encoding [] []
  | cons {text : Text} {lines : List Text} {first rest : Bytes}
    (head : LineFrame encoding text first) (tail : LinesFrame encoding lines rest) :
    LinesFrame encoding (text :: lines) (first ++ rest)

/-- No line is without bytes, as it has an end. -/
theorem LineFrame.ne_nil {encoding : Encoding} {text : Text} {frame : Bytes}
    (line : LineFrame encoding text frame) : frame ≠ [] := by
  -- The end of the line is one byte at least.
  obtain ⟨raw, _, _, rfl⟩ := line
  simp

/-- The same bytes are the same lines. -/
theorem LinesFrame.lines_eq {encoding : Encoding} {lines others : List Text}
    {frame frame' : Bytes} (isLeft : LinesFrame encoding lines frame)
    (isRight : LinesFrame encoding others frame') (same : frame = frame') : lines = others := by
  -- The induction is on the lines of one side, which the other has to follow.
  induction isLeft generalizing others frame' with
  | nil =>
    cases isRight with
    | nil => rfl
    | cons head _ => exact absurd (List.append_eq_nil_iff.mp same.symm).1 head.ne_nil
  | cons head tail ih =>
    cases isRight with
    | nil => exact absurd (List.append_eq_nil_iff.mp same).1 head.ne_nil
    | cons head' tail' =>
      obtain ⟨rfl, _, rest⟩ := LineFrame.unambiguous head head' same
      rw [ih tail' rest]

namespace Command

/-- A line is written exactly if it has no line break and each of its characters has bytes. -/
theorem encodeLine_eq_ok {verb line : Text} {encoding : Encoding} {bytes : Bytes} :
    encodeLine verb encoding line = .ok bytes ↔
      ('\r' ∉ line ∧ '\n' ∉ line) ∧ Response.encodeLine encoding line = .ok bytes := by
  have breaks : line.any breaksLine = false ↔ '\r' ∉ line ∧ '\n' ∉ line := by
    simp only [List.any_eq_false, breaksLine, Bool.or_eq_true, decide_eq_true_eq, not_or]
    constructor
    · intro none
      exact ⟨fun member => (none _ member).1 rfl, fun member => (none _ member).2 rfl⟩
    · rintro ⟨noReturn, noFeed⟩ c member
      exact ⟨fun same => noReturn (same ▸ member), fun same => noFeed (same ▸ member)⟩
  rw [← breaks]
  unfold encodeLine
  -- Once the line breaks are looked for, a line of a command is written like any other.
  cases line.any breaksLine with
  | true => exact ⟨nofun, nofun⟩
  | false => exact ⟨fun written => ⟨rfl, written⟩, fun written => written.2⟩

/-- The bytes of a command are those of its lines. -/
theorem encode_eq_ok {c : Command} {encoding : Encoding} {bytes : Bytes} :
    c.encode encoding = .ok bytes ↔
      ∃ parts, c.lines.mapM (encodeLine c.verb encoding) = .ok parts ∧ bytes = parts.flatten := by
  -- The lines are encoded one by one, and what they give is joined.
  unfold encode
  rw [Except.bind_eq_ok]
  constructor
  · rintro ⟨parts, written, same⟩
    exact ⟨parts, written, (Except.ok.inj same).symm⟩
  · rintro ⟨parts, written, rfl⟩
    exact ⟨parts, written, rfl⟩

/-- A command has bytes exactly if each of its lines has. -/
theorem exists_encode_eq_ok {c : Command} {encoding : Encoding} :
    (∃ bytes, c.encode encoding = .ok bytes) ↔
      ∀ line ∈ c.lines, '\r' ∉ line ∧ '\n' ∉ line ∧
        (encoding = .latin1 → ∀ ch ∈ line, ch.toNat ≤ 0xFF) := by
  -- The joining never fails, so that the lines decide.
  have command : (∃ bytes, c.encode encoding = .ok bytes) ↔
      ∃ parts, c.lines.mapM (encodeLine c.verb encoding) = .ok parts := by
    simp only [encode_eq_ok]
    exact ⟨fun ⟨_, parts, written, _⟩ => ⟨parts, written⟩,
      fun ⟨parts, written⟩ => ⟨_, parts, written, rfl⟩⟩
  -- A line must have no break in it and be within the encoding.
  have oneLine : ∀ line, (∃ bytes, encodeLine c.verb encoding line = .ok bytes) ↔
      '\r' ∉ line ∧ '\n' ∉ line ∧ (encoding = .latin1 → ∀ ch ∈ line, ch.toNat ≤ 0xFF) := by
    intro line
    simp only [encodeLine_eq_ok, Response.encodeLine_eq_ok, ← Encoding.exists_encode_eq_ok]
    constructor
    · rintro ⟨_, ⟨noReturn, noFeed⟩, raw, written, _⟩
      exact ⟨noReturn, noFeed, raw, written⟩
    · rintro ⟨noReturn, noFeed, raw, written⟩
      exact ⟨_, ⟨noReturn, noFeed⟩, raw, written, rfl⟩
  rw [command, Except.exists_mapM_eq_ok]
  exact forall₂_congr fun line _ => oneLine line

section Lines

variable {verb : Text} {encoding : Encoding} {lines : List Text} {parts : List Bytes}

/-- Written lines are read as they were, for a line without line breaks loses nothing. -/
theorem linesFrame_of_mapM (written : lines.mapM (encodeLine verb encoding) = .ok parts) :
    LinesFrame encoding lines parts.flatten := by
  -- By induction on the lines.
  induction lines generalizing parts with
  | nil =>
    cases written
    exact .nil
  | cons line lines ih =>
    obtain ⟨first, others, head, tail, rfl⟩ := Except.mapM_cons_eq_ok.mp written
    obtain ⟨⟨noReturn, noFeed⟩, head⟩ := encodeLine_eq_ok.mp head
    have frame := Response.lineFrame_of_encodeLine head noFeed
    -- A line without a carriage return loses none at its end.
    have kept : Line.received line = line :=
      Line.received_eq_self.mpr fun last => noReturn (List.mem_of_getLast? last)
    rw [kept] at frame
    exact .cons frame (ih tail)

/-- Written lines are within the limit if each of them is. -/
theorem within_of_mapM (written : lines.mapM (encodeLine verb encoding) = .ok parts)
    (short : ∀ line ∈ lines, ∀ raw, encoding.encode line = .ok raw → raw.length ≤ Line.maxLength) :
    Line.Within parts.flatten := by
  -- By induction on the lines, the first of which ends at the first line feed.
  induction lines generalizing parts with
  | nil =>
    cases written
    exact Line.within_of_length_le (Nat.zero_le _)
  | cons line lines ih =>
    obtain ⟨first, others, head, tail, rfl⟩ := Except.mapM_cons_eq_ok.mp written
    obtain ⟨⟨_, noFeed⟩, head⟩ := encodeLine_eq_ok.mp head
    obtain ⟨raw, encoded, rfl⟩ := Response.encodeLine_eq_ok.mp head
    rw [List.forall_mem_cons] at short
    have free := Encoding.feed_not_mem encoded noFeed
    have within := Line.Within.cons free (short.1 raw encoded) (ih tail short.2)
    simpa using within

end Lines

end Command

namespace Reader

/-- So many lines, one after the other. -/
def readSeveral : Nat → Reading (List Text)
  | 0 => pure []
  | count + 1 => do
    let line ← readLine
    return line :: (← readSeveral count)

/-- Lines that come whole are read in their order. -/
theorem readSeveral_arrives {encoding : Encoding} {lines : List Text} {frame : Bytes}
    (areLines : LinesFrame encoding lines frame) (within : Line.Within frame) :
    Arrives (readSeveral lines.length) encoding lines frame := by
  -- By induction on the lines; a single line leaves the others to come.
  induction areLines with
  | nil => exact .pure []
  | cons head _ ih =>
    refine (readLine_arrives head within.front).bind ?_
    exact (ih within.back).bind_nil (.pure _)

/-- Reading lines takes nothing from the reliability of a source. -/
theorem readSeveral_keepsReliable (count : Nat) :
    Step.Keeps (fun r => r.source.Reliable) (readSeveral count) := by
  -- By induction on the number of lines, since each is read in the same way.
  induction count with
  | zero => exact .pure []
  | succ count ih => exact readLine_keepsReliable.bind fun _ => ih.bind fun _ => .pure _

end Reader

namespace Command

/-- A command is sent exactly if none of its lines holds a line break and each character has bytes.
Whoever reads what is sent, in whatever pieces, finds the lines of the command and nothing else: one
line, or three for a renaming. -/
theorem lines_delivered {c : Command} {encoding : Encoding} :
    ((∃ bytes, c.encode encoding = .ok bytes) ↔
      ∀ line ∈ c.lines, '\r' ∉ line ∧ '\n' ∉ line ∧
        (encoding = .latin1 → ∀ ch ∈ line, ch.toNat ≤ 0xFF)) ∧
    (c.lines.length = match c with
      | .rename _ _ => 3
      | _ => 1) ∧
    ∀ bytes, c.encode encoding = .ok bytes →
      (∀ line ∈ c.lines, ∀ raw, encoding.encode line = .ok raw → raw.length ≤ Line.maxLength) →
      ∀ source : Source, source.Reliable → source.content = bytes →
        ∃ after ended,
          Reader.readSeveral c.lines.length (.ofSource source encoding) = (.ok c.lines, after) ∧
          after.unread = [] ∧
          Reader.readLine after = (.error .connectionClosed, ended) ∧
          ended.unread = [] := by
  refine ⟨exists_encode_eq_ok, ?_, ?_⟩
  · cases c <;> rfl
  · intro bytes encoded short source reliable content
    obtain ⟨parts, written, rfl⟩ := encode_eq_ok.mp encoded
    have arrives := Reader.readSeveral_arrives (linesFrame_of_mapM written)
      (within_of_mapM written short)
    -- All that is unread in the beginning are the lines of the command, and all of it comes.
    have whole : (Reader.ofSource source encoding).unread = parts.flatten ++ [] := by
      rw [List.append_nil]
      exact content
    have comes : parts.flatten <+: (Reader.ofSource source encoding).coming := by
      rw [Reader.coming_of_reliable reliable, whole]
      exact List.prefix_append _ _
    obtain ⟨after, read, nothing⟩ := arrives.readsBack rfl whole comes
    have still : after.source.Reliable := by
      have kept := Reader.readSeveral_keepsReliable c.lines.length
        (s := .ofSource source encoding) reliable
      rw [read] at kept
      exact kept
    obtain ⟨ended, closed, empty⟩ := Reader.readLine_ended still nothing
    exact ⟨after, ended, read, nothing, closed, empty⟩

/-- A renaming of one path with spaces to another with an umlaut is three lines, also where a read
ends within the umlaut and the next one is interrupted. -/
theorem lines_delivered_rename :
    ∃ after ended,
      Reader.readSeveral 3 (.ofSource ⟨[
            .bytes [82, 69, 78, 65, 77, 69, 10, 65, 32, 66, 10, 195] (by decide),
            .fault (.ofKind .interrupted), .bytes [188, 10] (by decide)], .closed⟩ .utf8)
        = (.ok ["RENAME".toList, "A B".toList, "ü".toList], after) ∧
      after.unread = [] ∧
      Reader.readLine after = (.error .connectionClosed, ended) ∧
      ended.unread = [] := by
  refine (@lines_delivered (.rename "A B".toList "ü".toList) .utf8).2.2
    [82, 69, 78, 65, 77, 69, 10, 65, 32, 66, 10, 195, 188, 10] (by rfl) ?_ _ ⟨by decide, rfl⟩ rfl
  intro line member raw encoded
  obtain rfl : Utf8.encode line = raw := Except.ok.inj encoded
  -- Each of the three lines is short.
  have short : ∀ line ∈ (rename "A B".toList "ü".toList).lines,
      (Utf8.encode line).length ≤ Line.maxLength := by decide
  exact short line member

end Command
end AmigaRemote
