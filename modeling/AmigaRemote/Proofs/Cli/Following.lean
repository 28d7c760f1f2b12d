import AmigaRemote.Proofs.Cli.Launch
import AmigaRemote.Proofs.Cli.Shown
import AmigaRemote.Proofs.Stream.Events

/-! A stream that is followed for people brings the data of the daemon to the standard output, block
by block, and nothing else, however it ends. -/

namespace AmigaRemote

open Reader (Complete complete_preserved)

/-- Whether a block is data, and no remark in a trace. -/
def StreamKind.isData (kind : StreamKind) (body : Bytes) : Bool :=
  kind = .tail || body.head? ≠ some StreamEvent.commentMark

/-- The data in blocks, in their order. -/
def StreamKind.dataIn (kind : StreamKind) (blocks : List Bytes) : Bytes :=
  (blocks.filter kind.isData).flatten

/-- The data in the first block stands in front of that in the others. -/
theorem StreamKind.dataIn_cons (kind : StreamKind) (body : Bytes) (blocks : List Bytes) :
    kind.dataIn (body :: blocks) = kind.dataIn [body] ++ kind.dataIn blocks := by
  -- What is kept of a list is what is kept of its first element and of the others.
  simp only [dataIn, ← List.flatten_append, ← List.filter_append, List.singleton_append]

namespace Connection

variable {c after : Connection}

/-- A stream that was opened was agreed to by a line that had come whole. -/
theorem openStream_came {request : StreamRequest} {stream : Stream}
    (opened : openStream request c = (.ok stream, after)) :
    ∃ layout, StatusLayout c.reader.encoding (.ok, stream.info) layout ∧
      c.reader.Took layout after.reader := by
  -- Only a line that says yes opens a stream. One that says no is thrown, after whatever follows
  -- it.
  unfold openStream at opened
  obtain ⟨_, middle, sent, opened⟩ := Step.bind_eq_ok.mp opened
  obtain ⟨⟨status, info⟩, answered, received, opened⟩ := Step.bind_eq_ok.mp opened
  obtain ⟨read, _⟩ := receive_ok received
  rw [send_reader sent] at read
  cases status with
  | ok =>
    cases opened
    exact Reader.readStatus_took read
  | err =>
    obtain ⟨_, _, _, thrown⟩ := Step.bind_eq_ok.mp opened
    cases thrown

end Connection

namespace Cli

variable {m : Manner} {r : Run} {s after : Session} {bytes : Bytes}

/-- A block brings itself to people if it is data, and nothing otherwise. -/
theorem event_ofChunk_brings (plain : m.json = false) (kind : StreamKind) (encoding : Encoding)
    (body : Bytes) :
    Brings (m.event (.ofChunk body kind.hasComments encoding)) (kind.dataIn [body]) := by
  -- Whether a block is data is decided by its kind and its first byte, as for the event made of it.
  have delivers := kind.delivers encoding body
  generalize StreamEvent.ofChunk body kind.hasComments encoding = event at delivers ⊢
  cases delivers with
  | remark traces marked =>
    have isRemark : kind.isData body = false := by simp [StreamKind.isData, traces, marked]
    have none : kind.dataIn [body] = [] := by simp [StreamKind.dataIn, isRemark]
    rw [none]
    exact Manner.event_other plain nofun
  | data isPlain =>
    have isData : kind.isData body = true := by simpa [StreamKind.isData] using isPlain
    have all : kind.dataIn [body] = body := by simp [StreamKind.dataIn, isData]
    rw [all]
    exact Manner.event_data plain body

namespace Run

/-- Blocks that are followed bring their data, and the stream goes on behind them. -/
theorem follow_blocks {blocks : List Bytes} {reader : Reader} (plain : r.manner.json = false)
    (before : Brings r.shown.reverse bytes) (complete : Complete s.connection.reader)
    (unstopped : s.Unstopped) (front : s.connection.reader.ReadsBlocks blocks reader) :
    ∃ run after, r.follow s = follow run after ∧ run.manner.json = false ∧
      Brings run.shown.reverse (bytes ++ s.stream.kind.dataIn blocks) ∧
      Complete after.connection.reader ∧ after.Unstopped ∧ after.connection.reader = reader := by
  -- Each block is one event, and what it brings stands behind what was brought before.
  generalize same : s.connection.reader = first at front
  induction front generalizing r s bytes with
  | nothing first =>
    refine ⟨r, s, rfl, plain, ?_, complete, unstopped, same⟩
    simpa [StreamKind.dataIn] using before
  | @block first middle reader body blocks read _ ih =>
    subst same
    have next := Session.nextEvent_block unstopped.streams read
    have kept := Session.nextEvent_keeps complete_preserved complete
    rw [next] at kept
    have brings := before.next
      (event_ofChunk_brings plain s.stream.kind s.connection.settings.encoding body)
    obtain ⟨run, after, later, plain', brings', rest⟩ :=
      @ih { r with shown := (r.manner.event (s.eventOf body)).reverse ++ r.shown }
        (s.pass body middle) _ plain brings kept (unstopped.pass body middle) rfl
    refine ⟨run, after, ?_, plain', ?_, rest⟩
    · rw [follow_eq next, onward_of_complete kept]
      exact later
    · have kind : (s.pass body middle).stream.kind = s.stream.kind := by simp [Session.pass]
      rwa [kind, List.append_assoc, ← StreamKind.dataIn_cons] at brings'

/-- A run that is left brings no more than what was shown before. -/
theorem leave_brings (before : Brings r.shown.reverse bytes) (verdict : Verdict) {c : Connection}
    (complete : Complete c.reader) :
    ∃ outcome, r.leave verdict c = .finished outcome ∧ Brings outcome.shown bytes :=
  -- All that is said behind the stream is said elsewhere than on the standard output.
  ⟨_, leave_finishes r verdict complete, lastWords_brings before verdict⟩

/-- The last event of a stream brings nothing, and ends the run. -/
theorem follow_last {last : Except ClientError (Option StreamEvent)}
    (plain : r.manner.json = false) (before : Brings r.shown.reverse bytes)
    (complete : Complete s.connection.reader) (next : s.nextEvent = (last, after))
    (other : ∀ body, last ≠ .ok (some (.data body))) (isOver : after.stream.isOver = true) :
    ∃ outcome, r.follow s = .finished outcome ∧ Brings outcome.shown bytes := by
  have kept := Session.nextEvent_keeps complete_preserved complete
  rw [next] at kept
  rw [follow_eq next, onward_of_complete kept]
  rcases last with e | _ | event
  · exact leave_brings before _ kept
  · exact leave_brings before _ kept
  · have brings := before.next (Manner.event_other plain fun body same => other body (same ▸ rfl))
    rw [List.append_nil] at brings
    -- The stream is over behind the event, which shows when one more is asked for.
    dsimp only [afterEvent]
    rw [follow_eq (Session.nextEvent_over isOver), onward_of_complete kept]
    exact leave_brings brings _ kept

/-- A stream that is followed to its end brings the data of its blocks, and nothing else. -/
theorem follow_brings {blocks : List Bytes} {front : Layout} {behind : Bytes}
    (plain : r.manner.json = false) (before : Brings r.shown.reverse bytes)
    (complete : Complete s.connection.reader) (unstopped : s.Unstopped)
    (short : FramesShort s.connection.reader.encoding s.connection.reader.coming)
    (isBlocks : BlocksLayout s.connection.reader.encoding blocks front)
    (comes : s.connection.reader.coming = front.bytes ++ behind)
    (noBlock : NoBlock s.connection.reader.encoding behind) :
    ∃ outcome, r.follow s = .finished outcome ∧
      Brings outcome.shown (bytes ++ s.stream.kind.dataIn blocks) := by
  rw [comes] at short
  obtain ⟨shortFront, shortRest⟩ := short.blocks isBlocks
  obtain ⟨reader, reads, rfl, took, _⟩ :=
    Reader.readsBlocks_of_coming isBlocks shortFront rfl comes
  obtain ⟨run, middle, same, plain', brings, complete', unstopped', rfl⟩ :=
    follow_blocks plain before complete unstopped reads
  obtain ⟨last, after, terminal, next, isOver⟩ :=
    Session.nextEvent_terminal unstopped' took.encoding noBlock fun _ _ => shortRest.next
  rw [same]
  refine follow_last plain' brings complete' next ?_ isOver
  -- Neither the end nor an error nor a failure is data.
  rintro body rfl
  cases terminal

/-- A stream that was opened brings the data of its blocks, and nothing else. -/
theorem start_brings {request : StreamRequest} {c after : Connection} {stream : Stream}
    {blocks : List Bytes} {front : Layout} {behind : Bytes} (plain : r.manner.json = false)
    (blank : r.shown = []) (complete : Complete c.reader)
    (opened : Connection.openStream request c = (.ok stream, after))
    (short : FramesShort after.reader.encoding after.reader.coming)
    (isBlocks : BlocksLayout after.reader.encoding blocks front)
    (comes : after.reader.coming = front.bytes ++ behind)
    (noBlock : NoBlock after.reader.encoding behind) :
    ∃ outcome, r.start request c = .finished outcome ∧
      Brings outcome.shown (request.kind.dataIn blocks) := by
  -- Nothing was shown before the stream was opened, and the opening shows nothing.
  have kept := Connection.openStream_keeps complete_preserved request complete
  rw [opened] at kept
  obtain ⟨unstopped, kind⟩ := @Session.unstopped_of_opened ⟨after, stream⟩ _ _ opened
  have before : Brings r.shown.reverse [] := by
    rw [blank]
    exact .nothing
  rw [start_eq opened, onward_of_complete kept, ← kind]
  exact follow_brings (r := { r with attention := .stops }) plain before kept unstopped short
    isBlocks comes noBlock

end Run

variable {words : List Word} {environment : Environment} {files : LocalFiles} {terminal : Bool}
  {i : Invocation} {source : Source} {sink : Sink} {c : Connection}

/-- A stream that is followed for people brings exactly the data of the blocks that have come whole
in front of whatever ends it, in their order and without the remarks of a trace. That is all that
ever stands on the standard output, whether the stream comes to its end, is broken off by the
daemon, or cannot be read any further. What comes are the greeting, the line that agrees to the
stream, and the blocks. Nothing is said of frames with a line above the limit. -/
theorem output_exact {request : StreamRequest} {stream : Stream} {after : Connection}
    (accepted : Invocation.parse words environment = .ok i) (plain : i.json = false)
    (isStream : i.action = .stream request)
    (complete : source.ending = .closed ∨ source.ending = .silent)
    (reached : Reached files i (.ok (source, sink)) c)
    (opened : Connection.openStream request c = (.ok stream, after))
    (short : FramesShort after.reader.encoding after.reader.coming) :
    ∃ outcome, launch words environment files terminal (.ok (source, sink)) = .finished outcome ∧
      (∃ greeting agreement, LineFrame c.reader.encoding c.banner (Layout.bytes greeting) ∧
        StatusLayout c.reader.encoding (.ok, stream.info) agreement ∧
        Delivery.flow source.deliveries
          = greeting.bytes ++ (agreement.bytes ++ after.reader.coming)) ∧
      (∃ blocks front behind, BlocksLayout after.reader.encoding blocks front ∧
        after.reader.coming = front.bytes ++ behind ∧ NoBlock after.reader.encoding behind) ∧
      ∀ blocks front behind, BlocksLayout after.reader.encoding blocks front →
        after.reader.coming = front.bytes ++ behind → NoBlock after.reader.encoding behind →
          Brings outcome.shown (request.kind.dataIn blocks) := by
  have arrival := BlocksLayout.exists_noBlock after.reader.encoding after.reader.coming
  have begins := @launch_begins _ _ files terminal (.ok (source, sink)) _ accepted
    fun _ _ carried => by
      cases carried
      exact complete
  generalize launch words environment files terminal (.ok (source, sink)) = p at begins ⊢
  cases begins with
  | missed unmet => cases isStream.symm.trans (unmet c reached)
  | @acts r c' reached' confirmed complete' json _ blank =>
    cases reached.unique reached'
    rw [isStream]
    change ∃ outcome, r.start request c = .finished outcome ∧ _
    have starts {blocks front behind} :=
      @Run.start_brings r _ _ _ _ blocks front behind (json.trans plain) blank complete' opened short
    obtain ⟨blocks, front, behind, isBlocks, comes, noBlock⟩ := arrival
    obtain ⟨outcome, ended, _⟩ := starts isBlocks comes noBlock
    refine ⟨outcome, ended, ?_, ⟨blocks, front, behind, isBlocks, comes, noBlock⟩, ?_⟩
    · obtain ⟨_, _, greeting, carried, isLine, flow⟩ := reached.came
      cases carried
      obtain ⟨agreement, isStatus, took⟩ := Connection.openStream_came opened
      exact ⟨greeting, agreement, isLine, isStatus, by rw [flow, took.coming]⟩
    · -- Whatever the blocks are, the run is the same.
      intro blocks front behind isBlocks comes noBlock
      obtain ⟨outcome', ended', brings⟩ := starts isBlocks comes noBlock
      cases ended.symm.trans ended'
      exact brings

/-- A transport to a daemon that traces: it sends a remark and a byte, and hangs up within the next
block. -/
def cutOff : Source × Sink :=
  (⟨[.bytes [65, 77, 73, 71, 65, 67, 84, 76, 32, 49, 46, 48, 46, 48, 10, 79, 75, 10, 68, 65, 84, 65,
      32, 51, 10, 35, 104, 10, 68, 65] (by decide),
    .fault (.ofKind .interrupted),
    .bytes [84, 65, 32, 49, 10, 65, 68, 65, 84, 65, 32, 57, 10, 66] (by decide)], .closed⟩,
    .accepting)

/-- Of a remark, a byte and a part of a block, the byte is what stands on the standard output. -/
theorem output_exact_cutOff : ∃ outcome,
    launch (["trace".toList, "start".toList].map Word.ofText) [] (Directory.toLocalFiles []) false
        (.ok cutOff) = .finished outcome ∧
      standardOutput outcome.shown = [65] := by
  obtain ⟨i, accepted, plain, isStream, usual, given⟩ : ∃ i,
      Invocation.parse (["trace".toList, "start".toList].map Word.ofText) [] = .ok i ∧
        i.json = false ∧ i.action = .stream (.traceStart []) ∧ i.settingsFile = none ∧
        i.given = .empty :=
    ⟨_, rfl, rfl, rfl, rfl, rfl⟩
  let behind : Bytes := [68, 65, 84, 65, 32, 57, 10, 66]
  obtain ⟨c, stream, after, reached, opened, encoding, comes⟩ : ∃ c stream after,
      Reached (Directory.toLocalFiles []) i (.ok cutOff) c ∧
        Connection.openStream (.traceStart []) c = (.ok stream, after) ∧
        after.reader.encoding = .latin1 ∧ after.reader.coming
          = [68, 65, 84, 65, 32, 51, 10, 35, 104, 10, 68, 65, 84, 65, 32, 49, 10, 65] ++ behind :=
    ⟨_, _, _, @Reached.greeted _ i (.ok cutOff) _ .empty cutOff.1 cutOff.2 _
      (by rw [usual]; rfl) rfl (by rw [given]; rfl), rfl, rfl, rfl⟩
  have three : HeaderLine 3 [68, 65, 84, 65, 32, 51] := ⟨_, Decimal.spells_ofNat 3, rfl⟩
  have one : HeaderLine 1 [68, 65, 84, 65, 32, 49] := ⟨_, Decimal.spells_ofNat 1, rfl⟩
  have remark : ChunkLayout .latin1 (.data [35, 104, 10])
      [.line [68, 65, 84, 65, 32, 51], .counted _] := .data ⟨by decide, rfl⟩ three (by decide)
  have byte : ChunkLayout .latin1 (.data [65]) [.line [68, 65, 84, 65, 32, 49], .counted _] :=
    .data ⟨by decide, rfl⟩ one (by decide)
  have noBlock : NoBlock .latin1 behind := by
    -- Whoever has all of it at hand does not find a block in it.
    rintro body layout isBlock ⟨rest, whole⟩
    have read := isBlock.asks.ready rest ⟨[], .closed⟩
    rw [whole] at read
    cases read
  obtain ⟨outcome, ended, _, _, brings⟩ :=
    @output_exact _ _ _ false i cutOff.1 cutOff.2 c _ _ _ accepted plain isStream (.inl rfl) reached
      opened (framesShort_of_length_le (by rw [comes]; decide))
  rw [encoding] at brings
  refine ⟨outcome, ended, ?_⟩
  exact (brings _ _ behind (.block remark (.block byte .nothing)) comes noBlock).output

end Cli
end AmigaRemote
