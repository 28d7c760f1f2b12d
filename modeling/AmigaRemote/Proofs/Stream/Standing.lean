import AmigaRemote.Proofs.Stream.GivenUp

/-! Where a session stands after any calls. The state of its stream, the use of its connection, the
right to a stop and the error that is kept all tell the same, and a stream that is over stays as it
is. -/

namespace AmigaRemote

namespace Session

/-- Where a session stands that has begun at another. -/
inductive Standing (start s : Session) : Prop where
  | streaming {blocks : List Bytes} (state : s.stream.state = .streaming)
    (ready : s.connection.health = .ready) (unfailed : s.stream.failure = none)
    (front : start.connection.reader.ReadsBlocks blocks s.connection.reader) : Standing start s
  /-- The end was read behind the blocks of the stream. -/
  | ended {blocks : List Bytes} {why : Option DaemonError} {middle behind : Reader}
    (state : s.stream.state = if why.isSome then .failed else .stopped)
    (failure : s.stream.failure = why) (ready : s.connection.health = .ready)
    (disarmed : s.stream.phase = .disarmed)
    (front : start.connection.reader.ReadsBlocks blocks middle)
    (last : Reader.readChunk middle = (.ok (.ofEnd why), behind))
    (late : ReadsLate s.stream.crossedStop behind s.connection.reader) : Standing start s
  | broken (state : s.stream.state = .broken) (broken : s.connection.health = .broken) :
    Standing start s

variable {start s : Session}

/-- The next event leaves a session standing somewhere. -/
theorem nextEvent_standing : Step.Keeps (Standing start) nextEvent := by
  intro s standing
  -- Only a session that streams goes on; of any other nothing changes.
  cases standing with
  | streaming state ready unfailed front =>
    have happens := nextEvent_happens state
    generalize nextEvent s = outcome at happens ⊢
    -- A block lets the front grow, an end is the last thing the session stands behind, and a failure
    -- breaks it.
    cases happens with
    | block read =>
      refine .streaming ((Stream.pass_state ..).trans state) ready ?_ (front.snoc read)
      unfold Session.pass Stream.pass
      dsimp only
      split <;> exact unfailed
    | @concluded why _ _ read late =>
      refine .ended ?_ ?_ ready (Stream.conclude_phase ..) front read late
      · cases why <;> rfl
      · cases why with
        | none => exact unfailed
        | some e => rfl
    | unanswered => exact .broken rfl rfl
    | lost => exact .broken rfl rfl
  | ended state failure ready disarmed front last late =>
    have isOver : s.stream.isOver = true := by
      simp only [Stream.isOver, state]
      split <;> rfl
    rw [nextEvent_over isOver]
    exact .ended state failure ready disarmed front last late
  | broken state broken =>
    rw [nextEvent_over (Stream.isOver_of_broken state)]
    exact .broken state broken

/-- A stop that is written leaves a session standing somewhere, and so does one that is not. -/
theorem Standing.of_requested {outcome : Except WireError Unit × Session}
    (standing : Standing start s) (requested : Requested s outcome) :
    Standing start outcome.2 := by
  -- A request changes no state, and an ended session is disarmed, so that it makes none.
  cases standing with
  | streaming state ready unfailed front =>
    cases requested with
    | unarmed => exact .streaming state ready unfailed front
    | written => exact .streaming state ready unfailed front
    | refused => exact .streaming state ready unfailed front
  | ended state failure ready disarmed front last late =>
    cases requested with
    | unarmed => exact .ended state failure ready disarmed front last late
    | written armed => rw [disarmed] at armed; cases armed
    | refused armed => rw [disarmed] at armed; cases armed
  | broken state broken =>
    cases requested with
    | unarmed => exact .broken state broken
    | written => exact .broken state broken
    | refused => exact .broken state broken

/-- A stop from outside leaves a session standing somewhere. -/
theorem stopElsewhere_standing : Step.Keeps (Standing start) stopElsewhere :=
  -- A stop from outside is a request and nothing else.
  fun s standing => standing.of_requested (requestStop_requested s)

/-- A stop from within leaves a session standing somewhere. -/
theorem stop_standing : Step.Keeps (Standing start) stop := by
  intro s standing
  -- As for a request, except that a failure breaks the session.
  have stops := stop_stops s
  generalize stop s = outcome at stops ⊢
  cases stops with
  | isOver => exact standing
  | unarmed => exact standing
  | written _ armed attempt => exact standing.of_requested (.written armed attempt)
  | refused => exact .broken rfl rfl

/-- Calls and stops from outside leave a session standing somewhere. -/
theorem run_standing {acts : List Act} (inside : .giveUp ∉ acts) (standing : Standing start s) :
    ∃ after, (Usage.streaming s).run acts = .streaming after ∧ Standing start after :=
  -- The three kinds of acts are those that the lemmas before are about.
  Usage.run_keeps nextEvent_standing stop_standing stopElsewhere_standing inside standing

/-- What a session tells of itself goes together with the use of its connection and with what was
read since another session. -/
structure Consistent (start s : Session) : Prop where
  ready : s.stream.state ≠ .broken → s.connection.health = .ready
  broken : s.stream.state = .broken ↔ s.connection.health = .broken
  unfailed : s.stream.state = .streaming ∨ s.stream.state = .stopped → s.stream.failure = none
  /-- The error that is kept is the one that was read last, behind the blocks of the stream. -/
  failed : s.stream.state = .failed → ∃ blocks e middle behind,
    start.connection.reader.ReadsBlocks blocks middle ∧
      Reader.readChunk middle = (.ok (.aborted e), behind) ∧
      ReadsLate s.stream.crossedStop behind s.connection.reader ∧ s.stream.failure = some e

/-- Wherever a session stands it is consistent. -/
theorem Standing.consistent (standing : Standing start s) : Consistent start s := by
  -- Each of the three positions tells the health and the failure there is.
  cases standing with
  | streaming state ready unfailed =>
    refine ⟨fun _ => ready, ?_, fun _ => unfailed, ?_⟩
    · simp [state, ready]
    · simp [state]
  | @ended _ why _ _ state failure ready _ front last late =>
    -- The end of the stream gave no failure, or the error that it keeps.
    cases why with
    | none =>
      refine ⟨fun _ => ready, ?_, fun _ => failure, ?_⟩
      · simp [state, ready]
      · simp [state]
    | some e =>
      refine ⟨fun _ => ready, ?_, ?_, fun _ => ⟨_, e, _, _, front, last, late, failure⟩⟩
      · simp [state, ready]
      · simp [state]
  | broken state broken =>
    refine ⟨fun intact => absurd state intact, ?_, ?_, ?_⟩
    · simp [state, broken]
    · simp [state]
    · simp [state]

/-- Nothing is done by any call of a session. -/
structure AtRest (s : Session) : Prop where
  nextEvent : nextEvent s = (.ok none, s)
  stop : stop s = (.ok (), s)
  cancel : cancel s = (.ok s.stream.state, s)
  release : release s = s

/-- A session that is over is at rest. -/
theorem atRest_of_isOver (isOver : s.stream.isOver = true) : AtRest s where
  nextEvent := nextEvent_over isOver
  stop := stop_over isOver
  cancel := cancel_over isOver
  -- To release cancels nothing that is over.
  release := by simp [Session.release, isOver]

/-- Whatever is done with a session, and whoever asks for it to be stopped, it is at rest, and its
state and the error that it kept are what they are now. -/
def Lasts (s : Session) : Prop :=
  ∀ acts, .giveUp ∉ acts → ∃ after, (Usage.streaming s).run acts = .streaming after ∧
    after.stream.state = s.stream.state ∧ after.stream.failure = s.stream.failure ∧ AtRest after

/-- A stop from outside is nothing that a stream takes as its end. -/
theorem requestStop_ending (s : Session) :
    (requestStop s).2.stream.state = s.stream.state ∧
      (requestStop s).2.stream.failure = s.stream.failure := by
  -- Whichever way the request goes, it changes the phase alone.
  have requested := requestStop_requested s
  generalize requestStop s = outcome at requested ⊢
  cases requested with
  | unarmed => exact ⟨rfl, rfl⟩
  | written => exact ⟨rfl, rfl⟩
  | refused => exact ⟨rfl, rfl⟩

/-- A session that is over stays as it is. -/
theorem lasts_of_isOver (isOver : s.stream.isOver = true) : Lasts s := by
  intro acts inside
  let Same (after : Session) : Prop :=
    after.stream.state = s.stream.state ∧ after.stream.failure = s.stream.failure
  have isOver' {after : Session} (same : Same after) : after.stream.isOver = true := by
    rw [Stream.isOver, same.1]
    exact isOver
  -- Only a stop from outside does anything, and it changes neither.
  have events : Step.Keeps Same nextEvent := fun after same => by
    rwa [nextEvent_over (isOver' same)]
  have stops : Step.Keeps Same stop := fun after same => by
    rwa [stop_over (isOver' same)]
  have elsewhere : Step.Keeps Same stopElsewhere := fun after same =>
    have kept := requestStop_ending after
    ⟨kept.1.trans same.1, kept.2.trans same.2⟩
  obtain ⟨after, ran, same⟩ := Usage.run_keeps events stops elsewhere inside (s := s) ⟨rfl, rfl⟩
  exact ⟨after, ran, same.1, same.2, atRest_of_isOver (isOver' same)⟩

/-- A call of a session fails. -/
def Fails (s : Session) : Act → Prop
  | .nextEvent => ∃ e, (nextEvent s).1 = .error e
  | .stop => ∃ e, (stop s).1 = .error e
  | .cancel => ∃ e, (cancel s).1 = .error e
  | _ => False

/-- An event that fails breaks the stream. -/
theorem nextEvent_fails {e : ClientError} {after : Session}
    (failed : nextEvent s = (.error e, after)) : after.stream.state = .broken := by
  -- A stream that is over fails no more, and one that goes on breaks with each failure.
  by_cases isOver : s.stream.isOver = true
  · rw [nextEvent_over isOver] at failed
    cases failed
  · have happens := nextEvent_happens (Stream.isOver_eq_false.mp (by simpa using isOver))
    rw [failed] at happens
    cases happens with
    | unanswered => rfl
    | lost => rfl

/-- A stop that fails breaks the stream. -/
theorem stop_fails {e : ClientError} {after : Session} (failed : stop s = (.error e, after)) :
    after.stream.state = .broken := by
  -- Of the ways to stop only the one with a failing request fails.
  have stops := stop_stops s
  rw [failed] at stops
  cases stops with
  | refused => rfl

/-- A stream that cannot be read to its end breaks. -/
theorem discard_fails {e : ClientError} {after : Session}
    (failed : discard s = (.error e, after)) : after.stream.state = .broken := by
  -- The failure is that of the last event, so that the induction hands it on.
  fun_induction discard s with
  | case1 => cases failed
  | case2 s e' last found =>
    cases failed
    exact nextEvent_fails found
  | case3 s event middle found _ ih => exact ih failed

/-- To cancel without success breaks the stream. -/
theorem cancel_fails {e : ClientError} {after : Session}
    (failed : cancel s = (.error e, after)) : after.stream.state = .broken := by
  -- The stop failed, or the reading to the end did; the last look at the stream does not fail.
  rcases Step.bind_eq_error.mp failed with stopped | ⟨_, middle, _, later⟩
  · exact stop_fails stopped
  · rcases Step.bind_eq_error.mp later with discarded | ⟨_, _, _, told⟩
    · exact discard_fails discarded
    · cases told

/-- A call that fails breaks the stream. -/
theorem Fails.broken {act : Act} (fails : Fails s act) :
    ∃ after, (Usage.streaming s).step act = .streaming after ∧ after.stream.state = .broken := by
  -- Only calls that return something can fail.
  cases act with
  | nextEvent =>
    obtain ⟨e, failed⟩ := fails
    exact ⟨_, rfl, nextEvent_fails (Prod.ext failed rfl)⟩
  | stop =>
    obtain ⟨e, failed⟩ := fails
    exact ⟨_, rfl, stop_fails (Prod.ext failed rfl)⟩
  | cancel =>
    obtain ⟨e, failed⟩ := fails
    exact ⟨_, rfl, cancel_fails (Prod.ext failed rfl)⟩
  | operate => exact fails.elim
  | stopElsewhere => exact fails.elim
  | giveUp => exact fails.elim

/-- An event with which a stream ends takes the right to a stop away. -/
theorem nextEvent_disarms (streams : s.stream.state = .streaming)
    (ends : (nextEvent s).2.stream.isOver = true) : (nextEvent s).2.stream.phase = .disarmed := by
  -- A block leaves the stream going on, so that the stream was ended by one of the other outcomes.
  have happens := nextEvent_happens streams
  generalize nextEvent s = outcome at happens ends ⊢
  cases happens with
  | @block body =>
    have goesOn : (s.pass body s.connection.reader).stream.isOver = false :=
      Stream.isOver_eq_false.mpr ((Stream.pass_state ..).trans streams)
    exact absurd (ends.symm.trans goesOn) (by decide)
  | concluded => exact Stream.conclude_phase ..
  | unanswered => exact Stream.conclude_phase ..
  | lost => rfl

/-- A stream that was opened stands at its beginning. -/
theorem standing_of_opened {request : StreamRequest} {c : Connection}
    (opened : Connection.openStream request c = (.ok s.stream, s.connection)) : Standing s s := by
  -- The stream is fresh, and nothing was read of it.
  obtain ⟨info, same⟩ := Crossing.stream_of_opened opened
  exact .streaming (by rw [same]) (ready_of_opened opened) (by rw [same]) (.nothing _)

/-- After any calls and any stops from outside a session is consistent. An event with which its
stream ends takes the right to a stop away. Once the stream is over its state lasts, and no call
does anything any more, and a call that fails breaks it, so that this holds from then on. -/
theorem run_consistent {request : StreamRequest} {c : Connection}
    (opened : Connection.openStream request c = (.ok s.stream, s.connection)) {acts : List Act}
    (inside : .giveUp ∉ acts) :
    ∃ after, (Usage.streaming s).run acts = .streaming after ∧ Consistent s after ∧
      (after.stream.state = .streaming → (nextEvent after).2.stream.isOver = true →
        (nextEvent after).2.stream.phase = .disarmed) ∧
      (after.stream.isOver = true → Lasts after) ∧
      ∀ act, Fails after act → ∃ fallen, (Usage.streaming after).step act = .streaming fallen ∧
        fallen.stream.state = .broken ∧ fallen.connection.health = .broken ∧ Lasts fallen := by
  obtain ⟨after, ran, standing⟩ := run_standing inside (standing_of_opened opened)
  refine ⟨after, ran, standing.consistent, nextEvent_disarms, lasts_of_isOver, fun act fails => ?_⟩
  obtain ⟨fallen, fell, broken⟩ := fails.broken
  -- What has fallen is one call further on, and stands there like any other session.
  have once : .giveUp ∉ [act] := by
    rw [List.mem_singleton]
    rintro rfl
    exact fails
  obtain ⟨last, same, standing'⟩ := run_standing once standing
  cases fell.symm.trans same
  exact ⟨fallen, fell, broken, standing'.consistent.broken.mp broken,
    lasts_of_isOver (Stream.isOver_of_broken broken)⟩

/-- A session whose daemon sends one byte and goes away. -/
def deserted : Session :=
  { Crossing.following with connection := { Crossing.following.connection with
      reader := ⟨[], ⟨[.bytes [68, 65, 84, 65, 32, 49, 10, 65] (by decide)], .closed⟩, .latin1⟩ } }

/-- The connection of a deserted session before it was opened. -/
def failing : Connection :=
  { Crossing.agreeing with reader := { Crossing.agreeing.reader with
      source := ⟨Crossing.agreeing.reader.source.deliveries
        ++ deserted.connection.reader.source.deliveries, .closed⟩ } }

/-- Where the daemon goes away behind a byte that was read, and a stop was sent meanwhile, the next
event fails, the session breaks together with its connection, and nothing is done with it any
more. -/
theorem run_consistent_deserted :
    Connection.openStream (.tail ['x']) failing = (.ok deserted.stream, deserted.connection) ∧
    ∃ after, (Usage.streaming deserted).run [.nextEvent, .stopElsewhere] = .streaming after ∧
      after.stream.state = .streaming ∧ after.stream.phase = .sent ∧ Fails after .nextEvent ∧
      ∃ fallen, (Usage.streaming after).step .nextEvent = .streaming fallen ∧
        fallen.stream.state = .broken ∧ fallen.connection.health = .broken ∧ Lasts fallen := by
  have opened : Connection.openStream (.tail ['x']) failing
      = (.ok deserted.stream, deserted.connection) := rfl
  obtain ⟨after, ran, _, _, _, breaks⟩ :=
    @run_consistent deserted _ _ opened [.nextEvent, .stopElsewhere] (by decide)
  -- Two calls have gone well before the one that fails.
  obtain ⟨streams, sent, fails⟩ : after.stream.state = .streaming ∧ after.stream.phase = .sent ∧
      Fails after .nextEvent := by
    cases ran
    exact ⟨rfl, rfl, _, rfl⟩
  exact ⟨opened, after, ran, streams, sent, fails, breaks _ fails⟩

end Session
end AmigaRemote
