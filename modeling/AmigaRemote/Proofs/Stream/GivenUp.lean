import AmigaRemote.Proofs.Stream.Completion
import AmigaRemote.Proofs.Stream.CrossingRun
import AmigaRemote.Proofs.Stream.Usage

/-! A session that is given up at any point leaves a connection behind that is broken, or at the
beginning of what comes next. -/

namespace AmigaRemote

/-- What a stream that goes on notes of a stop that was written and of the end of its program. -/
structure Stream.Notes (stream : Stream) (written exited : Bool) : Prop where
  -- Once the program has ended no stop may be sent, and one that was sent came too late.
  phase : stream.phase = if exited then .disarmed else if written then .sent else .armed
  crossed : stream.crossedStop = (written && exited)

namespace Stream.Notes

variable {stream : Stream} {written exited : Bool}

/-- As long as a stop may be sent none was, and the program has not ended. -/
theorem of_armed (notes : stream.Notes written exited) (armed : stream.phase = .armed) :
    written = false ∧ exited = false := by
  -- Of the four phases only one is armed.
  rw [notes.phase] at armed
  cases exited <;> cases written <;> cases armed
  exact ⟨rfl, rfl⟩

/-- A stop that was written comes too late for a stream that ends by itself. -/
theorem endByItself (notes : stream.Notes written exited) :
    stream.endByItself.Notes written true := by
  -- The phase tells whether a stop was written, which is what is noted.
  refine ⟨rfl, ?_⟩
  simp only [Stream.endByItself, notes.phase, notes.crossed]
  cases exited <;> cases written <;> rfl

/-- A block may tell that the program has ended. -/
theorem pass (notes : stream.Notes written exited) (encoding : Encoding) (body : Bytes) :
    (stream.pass encoding body).Notes written
      (exited || decide (Crossing.TellsExit stream.kind encoding body)) := by
  -- The block tells the exit, which ends the stream by itself, or it does not, which changes
  -- nothing.
  unfold Stream.pass
  split
  · rename_i tells
    rw [decide_eq_true tells, Bool.or_true]
    exact notes.endByItself
  · rename_i ordinary
    rwa [decide_eq_false ordinary, Bool.or_false]

/-- A stop that was written comes too late for a stream that breaks off, or whose program has
ended. -/
theorem conclude (notes : stream.Notes written exited) (why : Option DaemonError) :
    (stream.conclude why).crossedStop = (written && (why.isSome || exited)) := by
  -- A bare end adds nothing to what was noted; an error notes what was written.
  cases why with
  | none => exact notes.crossed
  | some e => exact notes.endByItself.crossed

end Stream.Notes

namespace Session

/-- Where a session stands that has begun at another. -/
inductive Stands (start : Session) (written : Bool) (s : Session) : Prop where
  | going {blocks : List Bytes} (streams : s.stream.state = .streaming)
    (ready : s.connection.health = .ready)
    (front : start.connection.reader.ReadsBlocks blocks s.connection.reader)
    (notes : s.stream.Notes written (start.tellExit blocks)) : Stands start written s
  | home (isOver : s.stream.isOver = true) (ready : s.connection.health = .ready)
    (unarmed : s.stream.phase ≠ .armed)
    (completes : Completes start written s.connection.reader) : Stands start written s
  | broken (isOver : s.stream.isOver = true) (broken : s.connection.health = .broken)
    (unwritten : s.stream.phase = .armed → written = false) (lost : Lost start written) :
    Stands start written s

/-- A session that has begun at another, and whether it has written a stop since. -/
structure Course (start : Session) (written : Bool) (s : Session) : Prop where
  settings : s.connection.settings = start.connection.settings
  kind : s.stream.kind = start.stream.kind
  tried : Sink.Tried start.connection.settings.encoding start.connection.sink written
    s.connection.sink
  stands : Stands start written s

/-- A session that has begun at another. -/
def Since (start s : Session) : Prop :=
  ∃ written, Course start written s

variable {start s : Session} {written : Bool}

/-- A session begins at itself. -/
theorem course_self (streams : s.stream.state = .streaming)
    (ready : s.connection.health = .ready) (armed : s.stream.phase = .armed)
    (uncrossed : s.stream.crossedStop = false) : Course s false s where
  settings := rfl
  kind := rfl
  tried := .untried _
  -- Nothing was tried and nothing was read.
  stands := .going streams ready (.nothing _) ⟨armed, uncrossed⟩

/-- One more block may tell what those before it did not. -/
theorem tellExit_snoc (blocks : List Bytes) (body : Bytes) :
    s.tellExit (blocks ++ [body]) = (s.tellExit blocks ||
      decide (Crossing.TellsExit s.stream.kind s.connection.settings.encoding body)) := by
  -- The exit is told by some block, of which this is the last.
  simp [tellExit, List.any_append]

/-- As long as a stop may be sent none was written. -/
theorem Stands.unwritten (stands : Stands start written s) (armed : s.stream.phase = .armed) :
    written = false := by
  -- A stream that goes on says so in its notes, and one that broke by what it keeps.
  cases stands with
  | going _ _ _ notes => exact (notes.of_armed armed).1
  | home _ _ unarmed _ => exact absurd armed unarmed
  | broken _ _ unwritten _ => exact unwritten armed

/-- A stop that is written makes it one that was. -/
theorem Stands.asked (stands : Stands start false s) (armed : s.stream.phase = .armed)
    (sink : Sink) : Stands start true (s.asked sink) := by
  -- One that goes on notes the stop; a broken one has lost its answer already.
  cases stands with
  | going streams ready front notes =>
    obtain ⟨_, unexited⟩ := notes.of_armed armed
    refine .going streams ready front ?_
    rw [unexited]
    exact ⟨rfl, notes.crossed⟩
  | home _ _ unarmed _ => exact absurd armed unarmed
  | broken isOver broken _ lost => exact .broken isOver broken nofun lost.of_unwritten

/-- A stop that cannot be written leaves a session where it stands. -/
theorem Stands.unasked (stands : Stands start written s) (sink : Sink) :
    Stands start written (s.unasked sink) := by
  -- Only the sink changes, and nothing depends on it.
  cases stands with
  | going streams ready front notes => exact .going streams ready front notes
  | home isOver ready unarmed completes => exact .home isOver ready unarmed completes
  | broken isOver broken unwritten lost => exact .broken isOver broken unwritten lost

/-- The next event leads a session on. -/
theorem Course.happens {blocks : List Bytes}
    {outcome : Except ClientError (Option StreamEvent) × Session} (course : Course start written s)
    (ready : s.connection.health = .ready)
    (streams : s.stream.state = .streaming)
    (front : start.connection.reader.ReadsBlocks blocks s.connection.reader)
    (notes : s.stream.Notes written (start.tellExit blocks)) (happens : Happens s outcome) :
    Course start written outcome.2 := by
  -- Whatever happens, what was tried before stays tried.
  obtain ⟨settings, kind, tried, _⟩ := course
  -- One case for each thing that the next call may come upon.
  cases happens with
  | @block body reader read =>
    refine ⟨settings, (Stream.pass_kind ..).trans kind, tried,
      .going ((Stream.pass_state ..).trans streams) ready (front.snoc read) ?_⟩
    rw [tellExit_snoc, ← kind, ← settings]
    exact notes.pass _ body
  | concluded read late =>
    rw [notes.conclude] at late
    exact ⟨settings, (Stream.conclude_kind ..).trans kind, tried,
      .home (Stream.conclude_isOver ..) ready (by simp [Session.home, Session.conclude])
        (.through front read late)⟩
  | unanswered read crossed failed =>
    rw [notes.conclude] at crossed
    exact ⟨settings, (Stream.conclude_kind ..).trans kind, tried,
      .broken rfl rfl (by simp [Session.cutOff, Session.conclude])
        (.answer front read crossed failed)⟩
  | lost read =>
    exact ⟨settings, kind, tried, .broken rfl rfl nofun (.chunk front read)⟩

/-- The next event leads a session on. -/
theorem nextEvent_since : Step.Keeps (Since start) nextEvent := by
  rintro s ⟨written, course⟩
  -- Only a stream that goes on is read; over one that is over nothing happens.
  refine ⟨written, ?_⟩
  cases course.stands with
  | going streams ready front notes =>
    exact course.happens ready streams front notes (nextEvent_happens streams)
  | home isOver => rwa [nextEvent_over isOver]
  | broken isOver => rwa [nextEvent_over isOver]

/-- A stop from outside leads a session on. -/
theorem stopElsewhere_since : Step.Keeps (Since start) stopElsewhere := by
  rintro s ⟨written, course⟩
  -- The request is made in one of three ways.
  have requested := requestStop_requested s
  change Since start (requestStop s).2
  generalize requestStop s = result at requested ⊢
  obtain ⟨settings, kind, tried, stands⟩ := course
  cases requested with
  | unarmed => exact ⟨written, settings, kind, tried, stands⟩
  | written armed attempt =>
    -- An armed session has written no stop so far.
    cases stands.unwritten armed
    rw [settings] at attempt
    exact ⟨true, settings, kind, tried.andThen (.written attempt), stands.asked armed _⟩
  | refused armed attempt =>
    cases stands.unwritten armed
    rw [settings] at attempt
    exact ⟨false, settings, kind, tried.andThen (.failed attempt (.untried _)), stands.unasked _⟩

/-- A stop from within leads a session on. -/
theorem stop_since : Step.Keeps (Since start) stop := by
  rintro s ⟨written, course⟩
  -- The session stops as a handle does, except that a failure breaks it.
  have stops := stop_stops s
  generalize stop s = result at stops ⊢
  obtain ⟨settings, kind, tried, stands⟩ := course
  change Since start result.2
  cases stops with
  | isOver => exact ⟨written, settings, kind, tried, stands⟩
  | unarmed => exact ⟨written, settings, kind, tried, stands⟩
  | written _ armed attempt =>
    cases stands.unwritten armed
    rw [settings] at attempt
    exact ⟨true, settings, kind, tried.andThen (.written attempt), stands.asked armed _⟩
  | refused _ armed attempt =>
    cases stands.unwritten armed
    rw [settings] at attempt
    -- What failed now or before, the first failure is what the session broke for.
    obtain ⟨_, _, first⟩ := tried.refused attempt
    exact ⟨false, settings, kind, tried.andThen (.failed attempt (.untried _)),
      .broken rfl rfl (fun _ => rfl) (.refused first)⟩

/-- To cancel leads a session on. -/
theorem cancel_since : Step.Keeps (Since start) cancel :=
  -- To cancel is to stop and to read on.
  cancel_keeps stop_since nextEvent_since

/-- Whatever happens to a session before it is given up leads it on. -/
theorem run_since {acts : List Act} (inside : .giveUp ∉ acts) (since : Since start s) :
    ∃ after, (Usage.streaming s).run acts = .streaming after ∧ Since start after :=
  -- Calls, stops from within and stops from outside each lead it on, and nothing else happens.
  Usage.run_keeps nextEvent_since stop_since stopElsewhere_since inside since

/-- A session that is given up is over, and was led on. -/
theorem release_since (since : Since start s) :
    Since start (release s) ∧ (release s).stream.isOver = true := by
  unfold release
  split
  · rename_i nothing
    refine ⟨since, ?_⟩
    -- A stream goes on over a connection that is ready, and over no other.
    rcases nothing with isOver | notReady
    · exact isOver
    · obtain ⟨_, _, _, _, stands⟩ := since
      cases stands with
      | going _ ready _ _ => exact absurd ready notReady
      | home isOver => exact isOver
      | broken isOver => exact isOver
  · exact ⟨cancel_since since, cancel_isOver s⟩

/-- A stream that was opened goes on over a connection that is ready. -/
theorem ready_of_opened {request : StreamRequest} {c : Connection}
    (opened : Connection.openStream request c = (.ok s.stream, s.connection)) :
    s.connection.health = .ready := by
  -- An open stream that goes on is in step with its connection, which therefore is of use.
  obtain ⟨info, same⟩ := Crossing.stream_of_opened opened
  have inStep := @Usage.step_inStep (.commands c) trivial (.operate (.openStream request))
  simp only [Usage.step, opened] at inStep
  have usable : s.connection.isUsable = true := inStep (by rw [same])
  simpa [Connection.isUsable] using usable

/-- A stream that was opened has nothing behind it. -/
theorem course_of_opened {request : StreamRequest} {c : Connection}
    (opened : Connection.openStream request c = (.ok s.stream, s.connection)) :
    Course s false s := by
  obtain ⟨info, same⟩ := Crossing.stream_of_opened opened
  -- The stream is fresh: it goes on, is armed and crossed nothing.
  exact course_self (by rw [same]) (ready_of_opened opened) (by rw [same]) (by rw [same])

/-- Whatever was done with a stream that was opened, once it is given up its connection is broken,
or it is ready and exactly the bytes of the stream up to its end are gone: blocks and then the end
or an error, and if a stop was written that came too late for the end, the answer to it. As far as
stops can be written there is one at most, and the connection is ready exactly if all of this can be
read, for which it is enough that it comes and has no line above the limit. -/
theorem givenUp_aligned {request : StreamRequest} {c : Connection}
    (opened : Connection.openStream request c = (.ok s.stream, s.connection)) {acts : List Act}
    (inside : .giveUp ∉ acts) :
    ∃ written after, (Usage.streaming s).run (acts ++ [.giveUp]) = .commands after ∧
      Sink.Tried s.connection.settings.encoding s.connection.sink written after.sink ∧
      (after.health = .broken ∨ after.health = .ready ∧ ∃ layout, CourseLayout s written layout ∧
        s.connection.unread = layout.bytes ++ after.unread) ∧
      ((s.connection.sink.sendCommand s.connection.settings.encoding .stop).1 = .ok () →
        after.sink.taken = s.connection.sink.taken ++ (if written then stopLine else []) ∧
        (after.health = .ready ↔ ∃ reader, Completes s written reader) ∧
        ∀ layout, CourseLayout s written layout → layout.Short →
          layout.bytes <+: s.connection.reader.coming → after.health = .ready) := by
  -- What was done leads the session on, and so does giving it up, which ends it.
  obtain ⟨last, ran, since⟩ := run_since inside ⟨false, course_of_opened opened⟩
  obtain ⟨⟨written, _, _, tried, stands⟩, isOver⟩ := release_since since
  refine ⟨written, last.release.connection, ?_, tried, ?_⟩
  -- To give up at the end of the run is to release the session that the run leads to.
  · simp only [Usage.run, List.foldl_append] at ran ⊢
    rw [ran]
    rfl
  -- Over at last, it went home or broke off.
  cases stands with
  | going streams =>
    rw [Stream.isOver_eq_false.mpr streams] at isOver
    cases isOver
  | home _ ready _ completes =>
    obtain ⟨layout, whole, took⟩ := completes.laid
    exact ⟨.inr ⟨ready, layout, whole, took.unread⟩, fun sends =>
      ⟨tried.taken sends, iff_of_true ready ⟨_, completes⟩, fun _ _ _ _ => ready⟩⟩
  | broken _ broken _ lost =>
    refine ⟨.inl broken, fun sends => ?_⟩
    have missed : ¬∃ reader, Completes s written reader :=
      fun ⟨_, completes⟩ => completes.not_lost sends lost
    refine ⟨tried.taken sends, iff_of_false (by rw [broken]; nofun) missed, ?_⟩
    exact fun layout whole short comes => absurd (whole.completes short comes) missed

/-- The notice of a program that has ended. -/
def exited : Bytes :=
  [35, 32, 80, 82, 79, 67, 69, 83, 83, 32, 69, 88, 73, 84, 69, 68, 32, 114, 99, 61, 48]

/-- A session with a daemon whose traced program has ended, and that would refuse a stop. -/
def exiting : Session where
  connection := { Crossing.following.connection with
    reader := ⟨[68, 65, 84, 65, 32, 50], ⟨[.bytes ([49, 10] ++ exited ++ [69, 78, 68]) (by decide),
      .fault (.ofKind .interrupted), .bytes [10, 46, 10, 69, 82, 82, 32, 49] (by decide),
      .bytes [10, 46, 10, 79] (by decide)], .silent⟩, .latin1⟩
    sink := { Sink.accepting with
      taken := [84, 82, 65, 67, 69, 32, 82, 85, 78, 32, 45, 45, 32, 120, 10] } }
  stream := ⟨.traceRun, [], .streaming, .armed, false, none⟩

/-- The connection of an exiting session before it was opened. -/
def runnable : Connection :=
  { Crossing.agreeing with
    reader := ⟨[79, 75, 10] ++ exiting.connection.reader.buffer, exiting.connection.reader.source,
      .latin1⟩ }

/-- A trace that is given up at its beginning leaves a connection that is ready. If a stop was
written its refusal is gone as well, and if none was it is the next to be read. -/
theorem givenUp_aligned_exiting :
    Connection.openStream (.traceRun [] ['x']) runnable = (.ok exiting.stream, exiting.connection) ∧
    ∃ after, (Usage.streaming exiting).run [.giveUp] = .commands after ∧ after.health = .ready ∧
      (after.sink.taken = exiting.connection.sink.taken ++ stopLine ∧ after.unread = [79] ∨
        after.sink.taken = exiting.connection.sink.taken ∧
          after.unread = [69, 82, 82, 32, 49, 10, 46, 10, 79]) := by
  have opened : Connection.openStream (.traceRun [] ['x']) runnable
      = (.ok exiting.stream, exiting.connection) := rfl
  have header : HeaderLine 21 [68, 65, 84, 65, 32, 50, 49] := ⟨_, Decimal.spells_ofNat 21, rfl⟩
  have notice : ChunkLayout .latin1 (.data exited)
      [.line [68, 65, 84, 65, 32, 50, 49], .counted exited] :=
    .data ⟨by decide, rfl⟩ header (by decide)
  have ends : ChunkLayout .latin1 (.ofEnd none) [.line [69, 78, 68], .line [46]] :=
    .ended ⟨by decide, rfl⟩ (.line ⟨by decide, rfl⟩)
  have answer : ResponseLayout .latin1 ⟨.err, ['1'], .lines []⟩
      ([.line [69, 82, 82, 32, 49]] ++ [.line [46]]) :=
    .lines (.line ⟨by decide, rfl⟩ (.withInfo [49])) (.sentinel (.line ⟨by decide, rfl⟩))
  have tells : exiting.tellExit [exited] = true := by decide
  obtain ⟨written, after, ran, _, aligned, sends⟩ :=
    @givenUp_aligned exiting _ _ opened [] List.not_mem_nil
  obtain ⟨taken, _, arrives⟩ := sends rfl
  have behind {layout : Layout} {rest : Bytes} (whole : CourseLayout exiting written layout)
      (same : exiting.connection.unread = layout.bytes ++ rest) (ready : after.health = .ready) :
      after.unread = rest := by
    rcases aligned with broken | ⟨_, layout', whole', unread⟩
    · rw [ready] at broken
      cases broken
    · rw [same] at unread
      rw [whole.unique whole' unread] at unread
      exact (List.append_cancel_left unread).symm
  -- Whether a stop was written decides how far the stream goes.
  cases written with
  | true =>
    have whole : CourseLayout exiting true _ := .late (.block notice .nothing) ends tells answer
    have ready := arrives _ whole (Layout.short_of_length_le (by decide)) ⟨[79], rfl⟩
    exact ⟨opened, after, ran, ready, .inl ⟨taken, behind whole rfl ready⟩⟩
  | false =>
    have whole : CourseLayout exiting false _ := .onTime (.block notice .nothing) ends rfl
    have ready := arrives _ whole (Layout.short_of_length_le (by decide))
      ⟨[69, 82, 82, 32, 49, 10, 46, 10, 79], rfl⟩
    exact ⟨opened, after, ran, ready,
      .inr ⟨taken.trans (List.append_nil _), behind whole rfl ready⟩⟩

end Session
end AmigaRemote
