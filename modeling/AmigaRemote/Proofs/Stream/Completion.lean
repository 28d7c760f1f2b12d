import AmigaRemote.Proofs.Stream.Outcomes

/-! What has to be read of a stream before its connection is back at commands. -/

namespace AmigaRemote

/-- What becomes of the writing end by attempts to write a stop, up to the first that succeeds. -/
inductive Sink.Tried (encoding : Encoding) : Sink → Bool → Sink → Prop where
  | untried (sink : Sink) : Tried encoding sink false sink
  | failed {sink middle after : Sink} {e : WireError} {written : Bool}
    (attempt : sink.sendCommand encoding .stop = (.error e, middle))
    (later : Tried encoding middle written after) : Tried encoding sink written after
  | written {sink after : Sink} (attempt : sink.sendCommand encoding .stop = (.ok (), after)) :
    Tried encoding sink true after

namespace Sink.Tried

variable {encoding : Encoding} {sink middle after : Sink} {e : WireError}

/-- Where no attempt has succeeded yet one more may be made, and it decides. -/
theorem andThen {written : Bool} (tried : Tried encoding sink false middle)
    (next : Tried encoding middle written after) : Tried encoding sink written after := by
  -- The attempts so far have failed, so all of them go in front.
  generalize unwritten : false = soFar at tried
  induction tried with
  | untried => exact next
  | failed attempt _ ih => exact .failed attempt (ih next unwritten)
  | written => cases unwritten

/-- An attempt that fails is the first one, or comes after one that did. -/
theorem refused (tried : Tried encoding sink false middle)
    (attempt : middle.sendCommand encoding .stop = (.error e, after)) :
    ∃ e first, sink.sendCommand encoding .stop = (.error e, first) := by
  -- Either nothing was tried, and this attempt is the first, or the first is on record.
  cases tried with
  | untried => exact ⟨e, after, attempt⟩
  | @failed _ first _ e _ attempt' _ => exact ⟨e, first, attempt'⟩

/-- Where attempts succeed there is one at most, and it writes a stop. -/
theorem taken {written : Bool} (tried : Tried encoding sink written after)
    (sends : (sink.sendCommand encoding .stop).1 = .ok ()) :
    after.taken = sink.taken ++ if written then stopLine else [] := by
  -- A success on record is the first attempt, and it took the whole line.
  cases tried with
  | untried => simp
  | failed attempt _ =>
    rw [attempt] at sends
    cases sends
  | written attempt =>
    obtain ⟨bytes, encoded, taken⟩ := sendCommand_ok attempt
    rw [encode_stop] at encoded
    cases encoded
    exact taken

end Sink.Tried

namespace Session

/-- Whether blocks of a stream tell that its program has ended. -/
def tellExit (s : Session) (blocks : List Bytes) : Bool :=
  blocks.any fun body => Crossing.TellsExit s.stream.kind s.connection.settings.encoding body

/-- Whether a stop is answered on its own, behind the end of the stream. -/
def answersLate (s : Session) (written : Bool) (blocks : List Bytes) (why : Option DaemonError) :
    Bool :=
  -- A stream that ends by itself does so before the daemon gets the stop.
  written && (why.isSome || s.tellExit blocks)

/-- A stream is read up to its end, and so is the answer to a stop that came too late for it. -/
inductive Completes (s : Session) (written : Bool) : Reader → Prop where
  | through {blocks : List Bytes} {why : Option DaemonError} {middle behind after : Reader}
    (front : s.connection.reader.ReadsBlocks blocks middle)
    (last : Reader.readChunk middle = (.ok (.ofEnd why), behind))
    (late : ReadsLate (s.answersLate written blocks why) behind after) : Completes s written after

/-- The bytes of a stream up to its end, and those of the answer to a stop that came too late. -/
inductive CourseLayout (s : Session) (written : Bool) : Layout → Prop where
  | onTime {blocks : List Bytes} {why : Option DaemonError} {front last : Layout}
    (isBlocks : BlocksLayout s.connection.reader.encoding blocks front)
    (isEnd : ChunkLayout s.connection.reader.encoding (.ofEnd why) last)
    (onTime : s.answersLate written blocks why = false) : CourseLayout s written (front ++ last)
  | late {blocks : List Bytes} {why : Option DaemonError} {response : Response}
    {front last answer : Layout}
    (isBlocks : BlocksLayout s.connection.reader.encoding blocks front)
    (isEnd : ChunkLayout s.connection.reader.encoding (.ofEnd why) last)
    (late : s.answersLate written blocks why = true)
    (isAnswer : ResponseLayout s.connection.reader.encoding response answer) :
    CourseLayout s written (front ++ (last ++ answer))

/-- Why the way back to commands may be missed. -/
inductive Lost (s : Session) (written : Bool) : Prop where
  | refused {e : WireError} {sink : Sink}
    (attempt : s.connection.sink.sendCommand s.connection.settings.encoding .stop
      = (.error e, sink)) : Lost s written
  | chunk {blocks : List Bytes} {e : WireError} {middle after : Reader}
    (front : s.connection.reader.ReadsBlocks blocks middle)
    (failed : Reader.readChunk middle = (.error e, after)) : Lost s written
  | answer {blocks : List Bytes} {why : Option DaemonError} {e : WireError}
    {middle behind after : Reader} (front : s.connection.reader.ReadsBlocks blocks middle)
    (last : Reader.readChunk middle = (.ok (.ofEnd why), behind))
    (late : s.answersLate written blocks why = true)
    (failed : Reader.readResponse behind = (.error e, after)) : Lost s written

variable {s : Session} {written : Bool} {after : Reader}

/-- No answer is missed where no stop was written. -/
theorem Lost.of_unwritten (lost : Lost s false) : Lost s written := by
  -- An answer is missed only where a stop was written.
  cases lost with
  | refused attempt => exact .refused attempt
  | chunk front failed => exact .chunk front failed
  | answer _ _ late _ => cases late

/-- What can be read to its end is not missed, unless a stop cannot be written. -/
theorem Completes.not_lost (completes : Completes s written after)
    (sends : (s.connection.sink.sendCommand s.connection.settings.encoding .stop).1 = .ok ()) :
    ¬Lost s written := by
  obtain ⟨front, last, answered⟩ := completes
  have ends {why : Option DaemonError} {middle behind : Reader}
      (last : Reader.readChunk middle = (.ok (.ofEnd why), behind)) (body : Bytes) :
      (Reader.readChunk middle).1 ≠ .ok (.data body) := by
    rw [last]
    exact fun same => Chunk.ofEnd_ne_data why body (Except.ok.inj same)
  rintro (attempt | ⟨front', failed⟩ | ⟨front', last', late, failed⟩)
  · rw [attempt] at sends
    cases sends
  · -- Both have read the same blocks, and then a chunk is read or is not.
    obtain ⟨rfl, rfl⟩ := front.unique front' (ends last) (by rw [failed]; nofun)
    rw [failed] at last
    cases last
  · obtain ⟨rfl, rfl⟩ := front.unique front' (ends last) (ends last')
    rw [last'] at last
    obtain ⟨same, rfl⟩ := Prod.mk.inj last
    cases Chunk.ofEnd_injective (Except.ok.inj same)
    cases answered with
    | nothing uncrossed =>
      rw [late] at uncrossed
      cases uncrossed
    | answer _ read =>
      rw [failed] at read
      cases read

/-- What was read to its end had come as it is laid out. -/
theorem Completes.laid (completes : Completes s written after) :
    ∃ layout, CourseLayout s written layout ∧ s.connection.reader.Took layout after := by
  -- The blocks, the end and the answer are taken from the source one behind the other.
  obtain ⟨front, last, answered⟩ := completes
  obtain ⟨blocks, isBlocks, took⟩ := front.took
  obtain ⟨final, isEnd, took'⟩ := Reader.readChunk_took last
  rw [took.encoding] at isEnd
  cases answered with
  | nothing uncrossed => exact ⟨_, .onTime isBlocks isEnd uncrossed, took.trans took'⟩
  | answer crossed read =>
    obtain ⟨reply, isAnswer, took''⟩ := Reader.readResponse_took read
    rw [took'.encoding, took.encoding] at isAnswer
    exact ⟨_, .late isBlocks isEnd crossed isAnswer, took.trans (took'.trans took'')⟩

/-- There is one place up to which bytes are those of a stream and of an answer. -/
theorem CourseLayout.unique {layout layout' : Layout} {rest rest' : Bytes}
    (whole : CourseLayout s written layout) (whole' : CourseLayout s written layout')
    (same : layout.bytes ++ rest = layout'.bytes ++ rest') : layout.bytes = layout'.bytes := by
  -- The same blocks and the same end are answered in the same way.
  cases whole with
  | onTime isBlocks isEnd onTime =>
    cases whole' with
    | onTime isBlocks' isEnd' _ =>
      rw [Layout.bytes_append, Layout.bytes_append, List.append_assoc, List.append_assoc] at same
      obtain ⟨_, _, front, last⟩ := isBlocks.unique isEnd isBlocks' isEnd' same
      rw [Layout.bytes_append, Layout.bytes_append, front, last]
    | late isBlocks' isEnd' late _ =>
      simp only [Layout.bytes_append, List.append_assoc] at same
      obtain ⟨rfl, rfl, _⟩ := isBlocks.unique isEnd isBlocks' isEnd' same
      rw [onTime] at late
      cases late
  | late isBlocks isEnd late isAnswer =>
    simp only [Layout.bytes_append, List.append_assoc] at same
    cases whole' with
    | onTime isBlocks' isEnd' onTime =>
      simp only [Layout.bytes_append, List.append_assoc] at same
      obtain ⟨rfl, rfl, _⟩ := isBlocks.unique isEnd isBlocks' isEnd' same
      rw [onTime] at late
      cases late
    | late isBlocks' isEnd' _ isAnswer' =>
      simp only [Layout.bytes_append, List.append_assoc] at same ⊢
      obtain ⟨_, _, front, last⟩ := isBlocks.unique isEnd isBlocks' isEnd' same
      rw [front, last, List.append_cancel_left_eq, List.append_cancel_left_eq] at same
      rw [front, last, (isAnswer.asks.unique isAnswer'.asks same).2]

/-- Bytes that come within the limit of a line are read to their end. -/
theorem CourseLayout.completes {layout : Layout} (whole : CourseLayout s written layout)
    (short : layout.Short) (comes : layout.bytes <+: s.connection.reader.coming) :
    ∃ after, Completes s written after := by
  obtain ⟨rest, comes⟩ := comes
  -- Block by block up to the end, and then the answer if the stop crossed it.
  cases whole with
  | onTime isBlocks isEnd onTime =>
    obtain ⟨shortFront, shortLast⟩ := Layout.short_append.mp short
    rw [Layout.bytes_append, List.append_assoc] at comes
    obtain ⟨middle, front, behind, took, _⟩ :=
      Reader.readsBlocks_of_coming isBlocks shortFront rfl comes.symm
    obtain ⟨after, last, _⟩ :=
      Reader.readChunk_of_coming (took.encoding ▸ isEnd) shortLast behind
    exact ⟨after, .through front last (.nothing onTime)⟩
  | late isBlocks isEnd late isAnswer =>
    obtain ⟨shortFront, shortLast⟩ := Layout.short_append.mp short
    obtain ⟨shortLast, shortAnswer⟩ := Layout.short_append.mp shortLast
    rw [Layout.bytes_append, Layout.bytes_append, List.append_assoc, List.append_assoc] at comes
    obtain ⟨middle, front, behind, took, _⟩ :=
      Reader.readsBlocks_of_coming isBlocks shortFront rfl comes.symm
    obtain ⟨next, last, behind, took', _⟩ :=
      Reader.readChunk_of_coming (took.encoding ▸ isEnd) shortLast behind
    obtain ⟨after, read, _⟩ := (isAnswer.asks.prompt shortAnswer)
      (took'.encoding.trans took.encoding) behind
    exact ⟨after, .through front last (.answer late read)⟩

end Session
end AmigaRemote
