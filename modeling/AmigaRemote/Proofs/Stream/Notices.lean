import AmigaRemote.Proofs.Stream.ExitNotice
import AmigaRemote.Proofs.Stream.GivenUp

/-! The notices of a trace, from the bytes that a daemon writes to what a session makes of them. What
is read as a notice decides whether a stop may still be sent, and whether one that was sent is
answered on its own. -/

namespace AmigaRemote

/-- What a daemon says when events were lost. -/
def overflowNotice (dropped : UInt64) : Text :=
  "# OVERFLOW ".toList ++ (Decimal.ofNat dropped.toNat ++ " events dropped".toList)

/-- A number that is written in digits is one word. -/
theorem Decimal.solid_ofNat (n : Nat) : Text.Solid (ofNat n) where
  nonempty := ofNat_ne_nil n
  free := by
    -- Digits are no white space.
    intro c member
    have digit := Char.toNat_of_isDigit (isDigit_of_mem_ofNat member)
    apply isSpace_of_plain
    omega

/-- The last word of a notice of lost events. -/
theorem solid_dropped : Text.Solid "dropped".toList where
  nonempty := nofun
  free := by
    -- Checked letter by letter.
    have letters : "dropped".toList.all (fun c => isSpace c = false) = true := rfl
    simpa using List.all_eq_true.mp letters

/-- A notice of lost events is cut in front of its last word, and behind its first. -/
theorem overflowNotice_cut (number : Text) :
    "# OVERFLOW ".toList ++ (number ++ " events dropped".toList)
        = '#' :: ' ' :: ("OVERFLOW ".toList ++ number ++ " events ".toList ++ "dropped".toList) ∧
      "OVERFLOW ".toList ++ number ++ " events ".toList ++ "dropped".toList
        = "OVERFLOW".toList ++ ([' '] ++ (number ++ ' ' :: "events dropped".toList)) := by
  -- The two cuts are the same text, associated in two ways.
  simp only [List.append_assoc]
  exact ⟨rfl, rfl⟩

/-- A notice of lost events says how many they were. -/
theorem Notice.reportsLoss_overflowNotice (dropped : UInt64) :
    ReportsLoss (overflowNotice dropped) dropped := by
  have solid := Decimal.solid_ofNat dropped.toNat
  have spells := Decimal.spells_ofNat dropped.toNat
  unfold overflowNotice
  generalize Decimal.ofNat dropped.toNat = number at solid spells ⊢
  -- The number is the first word behind the mark, with a space on either side.
  have counts : Text.Separated ([' '] ++ (number ++ ' ' :: "events dropped".toList))
      [number, "events".toList, "dropped".toList] := by
    refine .next Text.blank_space solid rfl (Text.words_eq_iff.mp ?_)
    decide
  obtain ⟨whole, body⟩ := overflowNotice_cut number
  refine ⟨_, number, _, ?_, counts, spells⟩
  rw [← body, whole]
  exact hasBody_of_solid rfl (by decide) solid_dropped

/-- A notice of lost events is a remark that is written alike in every encoding. -/
theorem plainRemark_overflowNotice (dropped : UInt64) : PlainRemark (overflowNotice dropped) := by
  have plain : ∀ c ∈ overflowNotice dropped, c.toNat < 0x80 := by
    intro c member
    have front : "# OVERFLOW ".toList.all (fun c => c.toNat < 0x80) = true := rfl
    have back : " events dropped".toList.all (fun c => c.toNat < 0x80) = true := rfl
    -- All parts of the notice are plain characters.
    rcases List.mem_append.mp member with inFront | behind
    · simpa using List.all_eq_true.mp front c inFront
    · rcases List.mem_append.mp behind with number | inBack
      · exact (Decimal.spells_ofNat dropped.toNat).plain c number
      · simpa using List.all_eq_true.mp back c inBack
  unfold overflowNotice at plain ⊢
  rw [(overflowNotice_cut _).1, ← List.cons_append, ← List.cons_append] at plain ⊢
  exact .of_solid rfl plain solid_dropped

/-- A notice that is read as what it means from its bytes, whatever bytes of line ends are behind
them. -/
def Encoding.Announces (encoding : Encoding) (notice : Text) (meaning : Notice) : Prop :=
  ∃ bytes, encoding.encode notice = .ok bytes ∧ ∀ ends,
    (∀ b ∈ ends, b = Line.carriageReturn ∨ b = Line.feed) →
      ∃ text, StreamEvent.ofChunk (bytes ++ ends) true encoding = .comment text ∧
        Notice.parse text = meaning

/-- A plain remark announces what it is read as. -/
theorem PlainRemark.announces {remark : Text} {meaning : Notice} (isPlain : PlainRemark remark)
    (means : Notice.parse remark = meaning) (encoding : Encoding) :
    encoding.Announces remark meaning := by
  -- A plain remark has bytes in every encoding, and arrives whatever line ends follow.
  obtain ⟨bytes, encoded, arrives⟩ := isPlain.arrives encoding
  exact ⟨bytes, encoded, fun ends lineEnds => ⟨remark, arrives ends lineEnds, means⟩⟩

namespace Session

/-- A block that is a remark of the exit of the traced program. -/
def IsExitNotice (s : Session) (body : Bytes) : Prop :=
  ∃ text rc, s.eventOf body = .comment text ∧ Notice.ReportsExit text rc

/-- What a session makes of a block. After the notice of the exit the stream of a TRACE RUN ends by
itself: no stop may be sent any more, and one that was sent comes too late. No other block, and no
block of any other stream, does anything to a stream. -/
structure Heeds (s : Session) (body : Bytes) (after : Session) : Prop where
  disarms : s.stream.phase ≠ .disarmed →
    (after.stream.phase = .disarmed ↔ s.stream.kind = .traceRun ∧ s.IsExitNotice body)
  notice : s.stream.kind = .traceRun ∧ s.IsExitNotice body → after.stream =
    { s.stream with
      phase := .disarmed, crossedStop := s.stream.crossedStop || s.stream.phase = .sent }
  other : ¬(s.stream.kind = .traceRun ∧ s.IsExitNotice body) → after.stream = s.stream

/-- An event tells of the exit exactly if it is a remark that reports it. -/
theorem tellsExit_iff {event : StreamEvent} :
    tellsExit event = true ↔ ∃ text rc, event = .comment text ∧ Notice.ReportsExit text rc := by
  -- To report an exit is to parse as one, and this is what the test looks at.
  simp only [← Notice.parse_eq_processExited]
  unfold tellsExit
  constructor
  · intro tells
    split at tells
    · rename_i text
      split at tells
      · rename_i rc means
        exact ⟨text, rc, rfl, means⟩
      · cases tells
    · cases tells
  · rintro ⟨text, rc, rfl, means⟩
    simp only [means]

/-- A block ends a stream by itself exactly if it is the notice of the exit in a TRACE RUN. -/
theorem tellsExit_block {s : Session} {body : Bytes} :
    Crossing.TellsExit s.stream.kind s.connection.settings.encoding body ↔
      s.stream.kind = .traceRun ∧ s.IsExitNotice body := by
  -- Only a TRACE RUN ends on its exit, which is the first half of the test.
  unfold Crossing.TellsExit StreamKind.endsOnExit
  rw [decide_eq_true_iff, tellsExit_iff]
  rfl

/-- A session heeds every block that it looks at. -/
theorem pass_heeds (s : Session) (body : Bytes) (reader : Reader) :
    s.Heeds body (s.pass body reader) := by
  -- A block is the notice of the exit, or it is not, and only the stream of the session depends on
  -- that.
  by_cases ends : s.stream.kind = .traceRun ∧ s.IsExitNotice body
  · have passed : (s.pass body reader).stream = s.stream.endByItself :=
      if_pos (tellsExit_block.mpr ends)
    exact {
      disarms := fun _ => by simp only [passed, Stream.endByItself, ends, and_self]
      notice := fun _ => passed
      other := fun isOther => absurd ends isOther }
  · have passed : (s.pass body reader).stream = s.stream := if_neg (tellsExit_block.not.mpr ends)
    exact {
      disarms := fun mayStop => by simp only [passed, mayStop, ends]
      notice := fun isNotice => absurd isNotice ends
      other := fun _ => passed }

/-- Notices are recognised from end to end. In every encoding and with any line ends behind them the
bytes of both notices are read as remarks that mean what was announced. A remark means the exit with
a return code exactly if it reports that. Whatever other threads have done to the session before it
looks at a block, or between, it heeds the block, and the next event is that block as it stands. -/
theorem notices_recognised :
    (∀ (encoding : Encoding) rc, encoding.Announces (exitNotice rc) (.processExited rc)) ∧
    (∀ (encoding : Encoding) dropped,
      encoding.Announces (overflowNotice dropped) (.overflow dropped)) ∧
    (∀ remark rc, Notice.parse remark = .processExited rc ↔ Notice.ReportsExit remark rc) ∧
    (∀ (s : Session) body, s.Heeds body (s.advance (.took (.ok (.data body)))).2) ∧
    ∀ (s : Session) body reader, s.stream.state = .streaming →
      Reader.readChunk s.connection.reader = (.ok (.data body), reader) →
        ∃ after, nextEvent s = (.ok (some (s.eventOf body)), after) ∧ s.Heeds body after := by
  -- The parts are proved one by one: both notices, the recogniser, and what becomes of a block.
  refine ⟨?exit, ?overflow, fun _ _ => Notice.parse_eq_processExited, ?looks, ?reads⟩
  case exit =>
    intro encoding rc
    exact (plainRemark_exitNotice rc).announces (Notice.parse_exitNotice rc) encoding
  case overflow =>
    intro encoding dropped
    have means := Notice.parse_eq_overflow.mpr (Notice.reportsLoss_overflowNotice dropped)
    exact (plainRemark_overflowNotice dropped).announces means encoding
  case looks =>
    intro s body
    rw [advance_data]
    exact pass_heeds s body s.connection.reader
  case reads =>
    intro s body reader streams read
    exact ⟨_, nextEvent_block streams read, pass_heeds s body reader⟩

/-- A session that has sent a stop to a daemon whose traced program has ended. -/
def overtaken : Session :=
  { exiting with stream := { exiting.stream with phase := .sent } }

/-- The notice of the exit takes the stop for one that comes too late. The same block does nothing
to the stream of a file. -/
theorem notices_recognised_overtaken :
    (∃ after, nextEvent overtaken = (.ok (some (.comment (exitNotice 0))), after) ∧
      after.stream.phase = .disarmed ∧ after.stream.crossedStop = true) ∧
    (Crossing.following.advance (.took (.ok (.data exited)))).2.stream
      = Crossing.following.stream := by
  obtain ⟨_, _, exits, looks, reads⟩ := notices_recognised
  -- The block is a remark that reports an exit, as the first part has it.
  have event : overtaken.eventOf exited = .comment (exitNotice 0) := by decide
  have reports : Notice.ReportsExit (exitNotice 0) 0 := (exits _ _).mp (by decide)
  obtain ⟨after, next, heeds⟩ := reads overtaken exited _ rfl rfl
  rw [event] at next
  have done := heeds.notice ⟨rfl, _, _, event, reports⟩
  -- What the second part says of a notice is read off, once for each of the two streams.
  refine ⟨⟨after, next, ?_, ?_⟩, ?_⟩
  · rw [done]
  · rw [done]
    rfl
  · exact (looks Crossing.following exited).other fun isNotice => nomatch isNotice.1

end Session
end AmigaRemote
