import AmigaRemote.Proofs.Stream.CrossingRun
import AmigaRemote.Proofs.Stream.Health
import AmigaRemote.Proofs.Stream.Outcomes
import AmigaRemote.Proofs.Text.Words

/-! A stream that is not stopped delivers its blocks in their order, each as soon as it has come,
then one more event that says how it ended, and nothing after that. -/

namespace AmigaRemote

/-- What a block of a stream is delivered as. -/
inductive StreamKind.Delivers (kind : StreamKind) (encoding : Encoding) (body : Bytes) :
    StreamEvent → Prop where
  /-- A remark in a trace, without the line ends behind it. -/
  | remark {text ends : Text} (traces : kind ≠ .tail)
    (marked : body.head? = some StreamEvent.commentMark)
    (decoded : encoding.decode body = text ++ ends) (lineEnds : ∀ c ∈ ends, c = '\r' ∨ c = '\n')
    (trimmed : ∀ c, text.getLast? = some c → c ≠ '\r' ∧ c ≠ '\n') :
    Delivers kind encoding body (.comment text)
  /-- Anything else, byte for byte. -/
  | data (plain : kind = .tail ∨ body.head? ≠ some StreamEvent.commentMark) :
    Delivers kind encoding body (.data body)

/-- Every block is delivered as a remark or as it is. -/
theorem StreamKind.delivers (kind : StreamKind) (encoding : Encoding) (body : Bytes) :
    kind.Delivers encoding body (.ofChunk body kind.hasComments encoding) := by
  unfold StreamEvent.ofChunk
  split
  · rename_i isRemark
    obtain ⟨comments, marked⟩ := isRemark
    obtain ⟨ends, decoded, dropped, last⟩ :=
      @Text.trimEndOf_parts (fun c => c = '\r' || c = '\n') (encoding.decode body)
    refine .remark ?_ marked decoded (fun c member => by simpa using dropped c member)
      fun c isLast => by simpa using last c isLast
    rintro rfl
    cases comments
  · rename_i isData
    rw [not_and_or] at isData
    refine .data (isData.imp_left fun noRemarks => ?_)
    -- Only a trace holds remarks.
    cases kind <;> simp_all [hasComments]

/-- No block of data comes next. -/
def NoBlock (encoding : Encoding) (behind : Bytes) : Prop :=
  ∀ body layout, ChunkLayout encoding (.data body) layout → ¬layout.bytes <+: behind

/-- How a stream ends, by what comes behind its last block. -/
inductive Terminal (encoding : Encoding) (behind : Bytes) :
    Except ClientError (Option StreamEvent) → Prop where
  | ended {layout : Layout} (isEnd : ChunkLayout encoding .ended layout)
    (front : layout.bytes <+: behind) : Terminal encoding behind (.ok (some .ended))
  | aborted {e : DaemonError} {layout : Layout} (isError : ChunkLayout encoding (.aborted e) layout)
    (front : layout.bytes <+: behind) : Terminal encoding behind (.ok (some (.aborted e)))
  /-- Neither a block nor an end nor an error comes whole. -/
  | broken {e : WireError}
    (none : ∀ chunk layout, ChunkLayout encoding chunk layout → ¬layout.bytes <+: behind) :
    Terminal encoding behind (.error (.wire e))

/-- Bytes are blocks up to where no further block comes. -/
theorem BlocksLayout.exists_noBlock (encoding : Encoding) (bytes : Bytes) :
    ∃ blocks front behind, BlocksLayout encoding blocks front ∧ bytes = front.bytes ++ behind ∧
      NoBlock encoding behind := by
  by_cases last : NoBlock encoding bytes
  · exact ⟨[], [], bytes, .nothing, rfl, last⟩
  · simp only [NoBlock, not_forall, not_not] at last
    obtain ⟨body, layout, isBlock, rest, rfl⟩ := last
    -- A block has a header at least, so fewer bytes are behind it.
    have fewer : rest.length < (layout.bytes ++ rest).length := by
      cases isBlock
      simp [Layout.bytes_cons, Stretch.bytes]
      omega
    obtain ⟨blocks, front, behind, isBlocks, rfl, noMore⟩ := exists_noBlock encoding rest
    exact ⟨body :: blocks, layout ++ front, behind, .block isBlock isBlocks,
      by rw [Layout.bytes_append, List.append_assoc], noMore⟩
termination_by bytes.length

/-- Every frame that stands in bytes behind blocks of data keeps to the limit of a line. -/
def FramesShort (encoding : Encoding) (bytes : Bytes) : Prop :=
  ∀ blocks front chunk layout, BlocksLayout encoding blocks front →
    ChunkLayout encoding chunk layout → front.bytes ++ layout.bytes <+: bytes → layout.Short

/-- Few bytes hold no long line. -/
theorem framesShort_of_length_le {encoding : Encoding} {bytes : Bytes}
    (few : bytes.length ≤ Line.maxLength) : FramesShort encoding bytes := by
  -- Any layout at the front is a part of these bytes, and no longer than they are.
  intro blocks front chunk layout _ _ part
  have := part.length_le
  rw [List.length_append] at this
  exact Layout.short_of_length_le (by omega)

/-- The frames at the front keep to the limit. -/
theorem FramesShort.next {encoding : Encoding} {bytes : Bytes} (short : FramesShort encoding bytes)
    {chunk : Chunk} {layout : Layout} (isChunk : ChunkLayout encoding chunk layout)
    (front : layout.bytes <+: bytes) : layout.Short :=
  -- No blocks stand before the first frame.
  short [] [] chunk layout .nothing isChunk front

/-- Blocks keep to the limit, and so does what is behind them. -/
theorem FramesShort.blocks {encoding : Encoding} {blocks : List Bytes} {front : Layout}
    {rest : Bytes}
    (isBlocks : BlocksLayout encoding blocks front)
    (short : FramesShort encoding (front.bytes ++ rest)) :
    front.Short ∧ FramesShort encoding rest := by
  induction isBlocks with
  | nothing => exact ⟨fun _ member => absurd member List.not_mem_nil, short⟩
  | @block body blocks first others head tail ih =>
    rw [Layout.bytes_append, List.append_assoc] at short
    -- What is behind the first block is behind it with the block in front.
    have behind : FramesShort encoding (Layout.bytes others ++ rest) := by
      intro later front chunk layout isLater isChunk part
      refine short (body :: later) (first ++ front) chunk layout (.block head isLater) isChunk ?_
      rwa [Layout.bytes_append, List.append_assoc, List.prefix_append_right_inj]
    obtain ⟨shortTail, shortRest⟩ := ih behind
    exact ⟨Layout.short_append.mpr ⟨short.next head (List.prefix_append _ _), shortTail⟩, shortRest⟩

section Ends

variable {encoding : Encoding} {why : Option DaemonError} {layout : Layout} {behind : Bytes}
  (isEnd : ChunkLayout encoding (.ofEnd why) layout) (front : layout.bytes <+: behind)
include isEnd front

/-- Where the end comes it is no other chunk that does. -/
theorem eq_ofEnd {chunk : Chunk} {other : Layout} (isChunk : ChunkLayout encoding chunk other)
    (front' : other.bytes <+: behind) : chunk = .ofEnd why := by
  -- Two chunks that stand at the front are one, since what they ask for is unambiguous.
  obtain ⟨rest, whole⟩ := front
  obtain ⟨rest', whole'⟩ := front'
  exact (isChunk.asks.unique isEnd.asks (whole'.trans whole.symm)).1

/-- Where the end comes there is no further block. -/
theorem noBlock_of_ofEnd : NoBlock encoding behind :=
  -- An end is no data.
  fun body _ isBlock front' =>
    Chunk.ofEnd_ne_data why body (eq_ofEnd isEnd front isBlock front').symm

/-- Where the end comes it is the last event. -/
theorem Terminal.eq_ofEnd {last : Except ClientError (Option StreamEvent)}
    (terminal : Terminal encoding behind last) : last = .ok (some (.ofEnd why)) := by
  -- An event that ended the stream came of some chunk at the front, which is this end.
  cases terminal with
  | ended isChunk front' =>
    have same := AmigaRemote.eq_ofEnd isEnd front isChunk front'
    cases why <;> cases same
    rfl
  | aborted isChunk front' =>
    have same := AmigaRemote.eq_ofEnd isEnd front isChunk front'
    cases why <;> cases same
    rfl
  | broken none => exact absurd front (none _ _ isEnd)

end Ends

namespace Session

variable {s middle after : Session}

/-- What so many calls for the next event give, and the session after them. -/
def nextEvents : Nat → Session → List (Except ClientError (Option StreamEvent)) × Session
  | 0, s => ([], s)
  | n + 1, s =>
    let (event, s) := nextEvent s
    let (events, s) := nextEvents n s
    (event :: events, s)

/-- Calls go on where those before them ended. -/
theorem nextEvents_add {m n : Nat} {events more : List (Except ClientError (Option StreamEvent))}
    (first : nextEvents m s = (events, middle)) (second : nextEvents n middle = (more, after)) :
    nextEvents (m + n) s = (events ++ more, after) := by
  -- By induction on the calls that are made first.
  induction m generalizing s events with
  | zero =>
    cases first
    rwa [Nat.zero_add]
  | succ m ih =>
    simp only [nextEvents] at first
    rcases others : nextEvents m (nextEvent s).2 with ⟨events', middle'⟩
    rw [others] at first
    cases first
    simp only [Nat.succ_add, nextEvents, ih others, List.cons_append]

/-- Once the stream is over there are no more events, and nothing changes. -/
theorem nextEvents_over (isOver : s.stream.isOver = true) (n : Nat) :
    nextEvents n s = (List.replicate n (.ok none), s) := by
  -- By induction on the calls, each of which changes nothing.
  induction n with
  | zero => rfl
  | succ n ih => simp only [nextEvents, nextEvent_over isOver, ih, List.replicate_succ]

/-- A session that goes on and was not stopped. -/
structure Unstopped (s : Session) : Prop where
  streams : s.stream.state = .streaming
  unsent : s.stream.phase ≠ .sent
  uncrossed : s.stream.crossedStop = false

namespace Unstopped

/-- A session that was not stopped has no stop that comes too late. -/
theorem endByItself_crossedStop (unstopped : s.Unstopped) :
    s.stream.endByItself.crossedStop = false := by
  -- No stop was sent, so that none is noted.
  simp [Stream.endByItself, unstopped.uncrossed, unstopped.unsent]

/-- A block stops nothing. -/
theorem pass (unstopped : s.Unstopped) (body : Bytes) (reader : Reader) :
    (s.pass body reader).Unstopped := by
  -- The phase changes at a notice only, and then it is no request.
  refine ⟨(Stream.pass_state ..).trans unstopped.streams, ?_, ?_⟩
  all_goals
    simp only [Session.pass, Stream.pass]
    split
  · nofun
  · exact unstopped.unsent
  · exact unstopped.endByItself_crossedStop
  · exact unstopped.uncrossed

/-- The way back to commands is free of answers. -/
theorem conclude_crossedStop (unstopped : s.Unstopped) (why : Option DaemonError) :
    (s.stream.conclude why).crossedStop = false := by
  -- Without an error nothing is noted, and with one only a stop that was sent.
  cases why with
  | none => exact unstopped.uncrossed
  | some e => exact unstopped.endByItself_crossedStop

end Unstopped

/-- Blocks that are read are the next events, one for each. -/
theorem nextEvents_blocks {blocks : List Bytes} {reader : Reader} (unstopped : s.Unstopped)
    (front : s.connection.reader.ReadsBlocks blocks reader) :
    ∃ after, nextEvents blocks.length s
        = (blocks.map fun body => .ok (some (s.eventOf body)), after) ∧
      after.connection.reader = reader ∧ after.Unstopped := by
  -- Each block is one call, and leaves a session of the same kind behind.
  generalize same : s.connection.reader = r at front
  induction front generalizing s with
  | nothing r => exact ⟨s, rfl, same, unstopped⟩
  | @block r middle reader body blocks read _ ih =>
    subst same
    have next := nextEvent_block unstopped.streams read
    obtain ⟨after, later, done, unstopped'⟩ :=
      @ih (s.pass body middle) (unstopped.pass body middle) rfl
    -- The later events are what they were to be before.
    have same : (s.pass body middle).eventOf = s.eventOf := by
      funext later
      simp [eventOf, Session.pass]
    rw [same] at later
    refine ⟨after, ?_, done, unstopped'⟩
    simp only [List.length_cons, nextEvents, next, later, List.map_cons]

/-- Where no further block comes, the next event is the last one. -/
theorem nextEvent_terminal {encoding : Encoding} (unstopped : s.Unstopped)
    (kept : s.connection.reader.encoding = encoding)
    (noBlock : NoBlock encoding s.connection.reader.coming)
    (short : ∀ chunk layout, ChunkLayout encoding chunk layout →
      layout.bytes <+: s.connection.reader.coming → layout.Short) :
    ∃ last after, Terminal encoding s.connection.reader.coming last ∧ nextEvent s = (last, after) ∧
      after.stream.isOver = true := by
  subst kept
  by_cases comes : ∃ chunk layout, ChunkLayout s.connection.reader.encoding chunk layout ∧
      layout.bytes <+: s.connection.reader.coming
  · obtain ⟨chunk, layout, isChunk, front⟩ := comes
    rcases chunk.block_or_end with ⟨body, rfl⟩ | ⟨why, rfl⟩
    · exact absurd front (noBlock _ _ isChunk)
    · obtain ⟨rest, whole⟩ := front
      obtain ⟨reader, read, _⟩ := Reader.readChunk_of_coming isChunk
        (short _ _ isChunk ⟨rest, whole⟩) whole.symm
      rcases nextEvent_ofEnd_cases unstopped.streams read with
        ⟨after, _, next⟩ | ⟨_, _, crossed, _⟩
      · refine ⟨_, _, ?_, next, Stream.conclude_isOver _ _⟩
        cases why with
        | none => exact .ended isChunk ⟨rest, whole⟩
        | some e => exact .aborted isChunk ⟨rest, whole⟩
      · rw [unstopped.conclude_crossedStop] at crossed
        cases crossed
  · simp only [not_exists, not_and] at comes
    -- What is read has come, so nothing is.
    have unread : ∀ {chunk reader}, Reader.readChunk s.connection.reader ≠ (.ok chunk, reader) := by
      intro chunk reader read
      obtain ⟨layout, isChunk, took⟩ := Reader.readChunk_took read
      exact comes _ _ isChunk ⟨_, took.coming.symm⟩
    rcases read : Reader.readChunk s.connection.reader with ⟨e | chunk, reader⟩
    · exact ⟨_, _, .broken comes, nextEvent_lost unstopped.streams read, rfl⟩
    · exact absurd read unread

/-- A stream that was opened was not stopped yet. -/
theorem unstopped_of_opened {request : StreamRequest} {c : Connection}
    (opened : Connection.openStream request c = (.ok s.stream, s.connection)) :
    s.Unstopped ∧ s.stream.kind = request.kind := by
  -- To open a stream makes a fresh one.
  obtain ⟨info, same⟩ := Crossing.stream_of_opened opened
  exact ⟨⟨by rw [same], by rw [same]; nofun, by rw [same]⟩, by rw [same]⟩

/-- Calls for the next event of a stream that was opened, and is not stopped, give one event for
each block that comes, in their order: a remark of a trace without its line ends, and anything else
byte for byte. Each event needs no more than the bytes up to the end of its block, whatever is
behind it and in whatever pieces they come. Where no further block comes there is one last event:
the end, the error that the daemon reports, or else a failure. From then on there are no events, and
the session stays as it is. Nothing is said of frames with a line above the limit. -/
theorem nextEvents_exact {request : StreamRequest} {c : Connection}
    (opened : Connection.openStream request c = (.ok s.stream, s.connection))
    (short : FramesShort s.connection.reader.encoding s.connection.reader.coming) :
    (∀ body, request.kind.Delivers s.connection.settings.encoding body (s.eventOf body)) ∧
    (∃ blocks front behind, BlocksLayout s.connection.reader.encoding blocks front ∧
      s.connection.reader.coming = front.bytes ++ behind ∧
      NoBlock s.connection.reader.encoding behind) ∧
    ∀ blocks front rest, BlocksLayout s.connection.reader.encoding blocks front →
      s.connection.reader.coming = front.bytes ++ rest →
      (∃ after, nextEvents blocks.length s
          = (blocks.map fun body => .ok (some (s.eventOf body)), after) ∧
        after.connection.reader.coming = rest ∧
        s.connection.reader.ReadsFor front.bytes after.connection.reader) ∧
      (NoBlock s.connection.reader.encoding rest →
        ∃ last after, Terminal s.connection.reader.encoding rest last ∧
          ∀ n, nextEvents (blocks.length + (1 + n)) s
            = ((blocks.map fun body => .ok (some (s.eventOf body)))
              ++ last :: List.replicate n (.ok none), after)) := by
  obtain ⟨unstopped, sameKind⟩ := unstopped_of_opened opened
  refine ⟨fun body => ?_, BlocksLayout.exists_noBlock _ _, ?_⟩
  · rw [← sameKind]
    exact s.stream.kind.delivers _ body
  · intro blocks front rest isBlocks comes
    rw [comes] at short
    obtain ⟨shortFront, shortRest⟩ := short.blocks isBlocks
    obtain ⟨reader, front, behind, took, reads⟩ :=
      Reader.readsBlocks_of_coming isBlocks shortFront rfl comes
    obtain ⟨middle, events, rfl, unstopped'⟩ := nextEvents_blocks unstopped front
    refine ⟨⟨middle, events, behind, reads⟩, fun noBlock => ?_⟩
    subst behind
    obtain ⟨last, after, terminal, next, isOver⟩ :=
      nextEvent_terminal unstopped' took.encoding noBlock
      fun chunk layout => shortRest.next
    refine ⟨last, after, terminal, fun n => nextEvents_add events ?_⟩
    -- The last event is one call, and the session is over after it.
    rw [Nat.add_comm]
    simp only [nextEvents, next, nextEvents_over isOver]

/-- A session with a daemon that agreed to trace, and sends a remark, a byte and an error. -/
def traced : Session where
  connection := { Crossing.following.connection with
    reader := ⟨[68, 65, 84, 65, 32, 53, 10, 35], ⟨[.bytes [104, 105, 13, 10, 68, 65] (by decide),
      .fault (.ofKind .interrupted),
      .bytes [84, 65, 32, 49, 10, 65, 69, 82, 82, 32, 49, 32, 120, 10] (by decide),
      .bytes [46, 10, 79] (by decide)], .silent⟩, .latin1⟩
    sink := { Sink.accepting with taken := [84, 82, 65, 67, 69, 32, 83, 84, 65, 82, 84, 10] } }
  stream := ⟨.traceStart, [], .streaming, .armed, false, none⟩

/-- The connection of a traced session before it was opened. -/
def traceable : Connection :=
  { Crossing.agreeing with
    reader := ⟨[79, 75, 10] ++ traced.connection.reader.buffer, traced.connection.reader.source,
      .latin1⟩ }

/-- A remark loses its line end, a byte comes as it is, the error is the last event, and nothing
comes after it. -/
theorem nextEvents_exact_traced :
    Connection.openStream (.traceStart []) traceable = (.ok traced.stream, traced.connection) ∧
    ∃ after, nextEvents 5 traced = ([.ok (some (.comment ['#', 'h', 'i'])), .ok (some (.data [65])),
      .ok (some (.aborted ⟨1, ['x']⟩)), .ok none, .ok none], after) := by
  have opened : Connection.openStream (.traceStart []) traceable
      = (.ok traced.stream, traced.connection) := rfl
  -- The layout is written down frame by frame: a remark, a byte, an error.
  have five : HeaderLine 5 [68, 65, 84, 65, 32, 53] := ⟨_, Decimal.spells_ofNat 5, rfl⟩
  have one : HeaderLine 1 [68, 65, 84, 65, 32, 49] := ⟨_, Decimal.spells_ofNat 1, rfl⟩
  have remark : ChunkLayout .latin1 (.data [35, 104, 105, 13, 10])
      [.line [68, 65, 84, 65, 32, 53], .counted _] := .data ⟨by decide, rfl⟩ five (by decide)
  have byte : ChunkLayout .latin1 (.data [65]) [.line [68, 65, 84, 65, 32, 49], .counted _] :=
    .data ⟨by decide, rfl⟩ one (by decide)
  have head : StatusLayout .latin1 (.err, ['1', ' ', 'x']) [.line [69, 82, 82, 32, 49, 32, 120]] :=
    .line ⟨by decide, rfl⟩ (.withInfo [49, 32, 120])
  have sentinel : SentinelLayout [.line [46]] := .line ⟨by decide, rfl⟩
  have isError : ChunkLayout .latin1 (.ofEnd (some ⟨1, ['x']⟩)) _ := .aborted head sentinel
  have front : Layout.bytes ([.line [69, 82, 82, 32, 49, 32, 120]] ++ [.line [46]])
      <+: [69, 82, 82, 32, 49, 32, 120, 10, 46, 10, 79] := ⟨[79], rfl⟩
  -- The two blocks are events, and the error is the last of them.
  obtain ⟨last, after, terminal, events⟩ :=
    ((nextEvents_exact opened (framesShort_of_length_le (by decide))).2.2 _ _ _
      (.block remark (.block byte .nothing)) rfl).2
      (noBlock_of_ofEnd isError front)
  rw [terminal.eq_ofEnd isError front] at events
  exact ⟨opened, after, events 2⟩

end Session
end AmigaRemote
