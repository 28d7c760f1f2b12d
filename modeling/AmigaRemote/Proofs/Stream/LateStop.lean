import AmigaRemote.Proofs.Stream.CrossingRun
import AmigaRemote.Proofs.Stream.Shared

/-! What a stop does that is asked for when its session is over: nothing, unless the session was to
write a stop of its own and could not. -/

namespace AmigaRemote

namespace Session

variable {s : Session}

/-- Where a stop may be sent, to ask for one is to write it. -/
theorem requestStop_armed (armed : s.stream.phase = .armed) :
    (requestStop s).1 = (s.connection.sink.sendCommand s.connection.settings.encoding .stop).1 ∧
      (requestStop s).2.connection.sink
        = (s.connection.sink.sendCommand s.connection.settings.encoding .stop).2 := by
  -- Of the ways in which a stop is requested, armed streams know two.
  have requested := requestStop_requested s
  generalize requestStop s = outcome at requested ⊢
  cases requested with
  | unarmed unarmed => exact absurd armed unarmed
  | written _ attempt => rw [attempt]; exact ⟨rfl, rfl⟩
  | refused _ attempt => rw [attempt]; exact ⟨rfl, rfl⟩

/-- To ask for a stop gives nobody the right to one. -/
theorem requestStop_keepsArmed (armed : (requestStop s).2.stream.phase = .armed) :
    (requestStop s).2.stream = s.stream := by
  -- A request that is made takes the right away, whether it succeeds or not.
  have requested := requestStop_requested s
  generalize requestStop s = outcome at requested armed ⊢
  cases requested with
  | unarmed => rfl
  | written => cases armed
  | refused => rfl

/-- A thread that does not go back to commands gives nobody the right to a stop. -/
theorem advance_keepsArmed {point : Point} (staying : ∀ event, point ≠ .leaving event)
    (armed : (s.advance point).2.stream.phase = .armed) :
    (s.advance point).2.stream = s.stream := by
  cases point with
  | leaving event => exact absurd rfl (staying event)
  | idle =>
    simp only [advance]
    split <;> rfl
  | took taken =>
    rcases taken with e | chunk
    · -- What cannot be taken ends the stream, and with it the right to a stop.
      have disarmed : (s.advance (.took (.error e))).2.stream.phase = .disarmed := by
        simp [advance, process, Step.bind_apply, update, onConnection, Stream.disarm]
      rw [disarmed] at armed
      cases armed
    · rcases chunk.block_or_end with ⟨body, rfl⟩ | ⟨why, rfl⟩
      · rw [advance_data] at armed ⊢
        simp only [pass, Stream.pass] at armed ⊢
        split at armed
        · cases armed
        · rename_i ordinary
          rw [if_neg ordinary]
      · rw [advance_ofEnd] at armed
        exact absurd armed (s.stream.conclude_unarmed why)

end Session

/-- The stream of a session that goes back to commands. -/
def Stage.leaving? : Stage → Option Stream
  | following stream (.leaving _) => some stream
  | answering stream => some stream
  | _ => none

/-- A stage goes back to commands with another stream if it does so with the one that it has. -/
theorem Stage.leaving?_withStream {stage : Stage} {stream after : Stream}
    (leaves : (stage.withStream after).leaving? = some stream) :
    stage.leaving? = stage.stream? ∧ after = stream := by
  -- Only two stages have a way back to commands, and a changed stream changes neither.
  cases stage with
  | following _ point =>
    cases point with
    | leaving => exact ⟨rfl, Option.some.inj leaves⟩
    | _ => cases leaves
  | answering => exact ⟨rfl, Option.some.inj leaves⟩
  | _ => cases leaves

namespace Shared

variable {x y : Shared} {stream : Stream}

/-- A stream with a session, be it the one that is open or an earlier one. -/
def Holds (x : Shared) (stream : Stream) : Prop :=
  x.stage.stream? = some stream ∨ stream ∈ x.earlier

/-- A session was to write a stop of its own and could not, which broke its stream. -/
def FallsOut (x y : Shared) (stream : Stream) : Prop :=
  ∃ old e, x.stage = .following old .idle ∧ y.stage = .following stream .idle ∧
    Session.stop ⟨x.connection, old⟩ = (.error e, ⟨y.connection, stream⟩)

/-- A stream that breaks so is over, but its stop may be asked for as before. -/
theorem FallsOut.armed (fallsOut : FallsOut x y stream) :
    stream.state = .broken ∧ stream.phase = .armed := by
  obtain ⟨old, e, _, _, stopped⟩ := fallsOut
  have stops := Session.stop_stops ⟨x.connection, old⟩
  rw [stopped] at stops
  -- Only a stop that could not be written fails.
  generalize y.connection = after at stops
  cases stops with
  | refused _ armed => exact ⟨rfl, armed⟩

/-- Where a session goes back to commands, nobody has the right to a stop for it any more. -/
def LeavesUnarmed (x : Shared) : Prop :=
  ∀ stream, x.stage.leaving? = some stream → stream.phase ≠ .armed

/-- Every step leaves it so. -/
theorem LeavesUnarmed.next (unarmed : LeavesUnarmed x) (step : Next x y) : LeavesUnarmed y := by
  -- Of all steps, only the reading thread sets out for commands, and another thread may act
  -- meanwhile.
  intro stream leaves
  cases step with
  | operate commands =>
    rw [commands] at leaves
    cases leaves
  | unasked commands =>
    rw [commands] at leaves
    cases leaves
  | ask => cases leaves
  | opened => cases leaves
  | refused => cases leaves
  | unheard => cases leaves
  | dismissed => cases leaves
  | answered => cases leaves
  | unanswered => cases leaves
  | stop => cases leaves
  | giveUp => cases leaves
  | stopEarlier => exact unarmed stream leaves
  | @advance old point following staying =>
    cases point with
    | leaving event => exact absurd rfl (staying event)
    | idle =>
      simp only [goOn, Session.advance] at leaves
      split at leaves <;> cases leaves
    | took taken =>
      rcases taken with e | chunk
      · cases leaves
      · -- A block is looked at and waited behind, an end disarms the stream and sets out.
        rcases chunk.block_or_end with ⟨body, rfl⟩ | ⟨why, rfl⟩
        · cases leaves
        · simp only [goOn, Session.advance_ofEnd] at leaves
          cases leaves
          exact Stream.conclude_unarmed _ why
  | leave following =>
    dsimp only at leaves
    split at leaves
    · cases leaves
      exact unarmed _ (by rw [following]; rfl)
    · cases leaves
  -- A stop from elsewhere changes the stream of the stage only if that is armed, which it is not.
  | stopElsewhere open_ =>
    obtain ⟨before, rfl⟩ := Stage.leaving?_withStream leaves
    have off := unarmed _ (before.trans open_)
    rwa [Session.requestStop_unarmed off]

/-- A stream that is open and over with the right to a stop was so before, unless its session has
just fallen out. -/
theorem Next.armed_open (step : Next x y) (leaves : LeavesUnarmed x)
    (open_ : y.stage.stream? = some stream) (isOver : stream.isOver = true)
    (armed : stream.phase = .armed) : x.stage.stream? = some stream ∨ FallsOut x y stream := by
  cases step with
  | operate => exact .inl open_
  | unasked => exact .inl open_
  | stopEarlier => exact .inl open_
  | ask => cases open_
  | refused => cases open_
  | unheard => cases open_
  | dismissed => cases open_
  | giveUp => cases open_
  -- A stream that begins is not over.
  | opened =>
    cases open_
    cases isOver
  | advance following staying =>
    cases open_
    rw [Session.advance_keepsArmed staying armed, following]
    exact .inl rfl
  | leave following =>
    rw [following]
    dsimp only at open_
    split at open_ <;> exact .inl open_
  | answered answering =>
    cases open_
    rw [answering]
    exact .inl rfl
  | @unanswered old _ _ answering =>
    cases open_
    exact absurd armed (leaves old (by rw [answering]; rfl))
  | @stop old following goesOn =>
    cases open_
    have stops := Session.stop_stops ⟨x.connection, old⟩
    rcases stopped : Session.stop ⟨x.connection, old⟩ with ⟨outcome, after⟩
    simp only [goOn, stopped] at isOver armed ⊢
    rw [stopped] at stops
    -- What is written takes the right away, so only a stop that could not be written is left.
    cases stops with
    | isOver isOver' =>
      rw [Stream.isOver_eq_false.mpr goesOn] at isOver'
      cases isOver'
    | unarmed unarmed => exact absurd armed unarmed
    | written => cases armed
    | refused => exact .inr ⟨old, _, following, rfl, stopped⟩
  | stopElsewhere open' =>
    rw [Stage.stream?_withStream open'] at open_
    cases open_
    rw [Session.requestStop_keepsArmed armed]
    exact .inl open'

/-- A stream of an earlier session with the right to a stop was held before. -/
theorem Next.armed_earlier (step : Next x y) (earlier : stream ∈ y.earlier)
    (armed : stream.phase = .armed) : x.Holds stream := by
  -- A stream joins the earlier ones when its session is given up; no other step arms one of them.
  cases step with
  | giveUp following =>
    rcases List.mem_cons.mp earlier with rfl | earlier
    · exact .inl (by rw [following]; rfl)
    · exact .inr earlier
  | @stopEarlier old front behind held =>
    refine .inr ?_
    rw [held]
    simp only [List.mem_append, List.mem_cons] at earlier ⊢
    rcases earlier with inFront | rfl | isBehind
    · exact .inl inFront
    -- A stop asked for by the handle of the old session would have disarmed it.
    · exact .inr (.inl (Session.requestStop_keepsArmed armed))
    · exact .inr (.inr isBehind)
  | _ => exact .inr earlier

/-- A stream that is over with the right to a stop is one whose session fell out. -/
theorem fallsOut_of_armed {c : Connection} (reached : Reach (start c) x) (held : x.Holds stream)
    (isOver : stream.isOver = true) (armed : stream.phase = .armed) :
    ∃ y z, Reach (start c) y ∧ Next y z ∧ FallsOut y z stream ∧ Reach z x := by
  have unarmed {y : Shared} (reached : Reach (start c) y) : LeavesUnarmed y := by
    induction reached with
    | refl => exact nofun
    | tail _ step ih => exact ih.next step
  induction reached with
  | refl => rcases held with open_ | earlier <;> contradiction
  | @tail before after reached step ih =>
    -- The session fell out in this step or before it.
    have source : before.Holds stream ∨ FallsOut before after stream := by
      rcases held with open_ | earlier
      · exact (step.armed_open (unarmed reached) open_ isOver armed).imp_left .inl
      · exact .inl (step.armed_earlier earlier armed)
    rcases source with held | fallsOut
    · obtain ⟨y, z, first, step', fallsOut, later⟩ := ih held
      exact ⟨y, z, first, step', fallsOut, later.tail step⟩
    · exact ⟨before, after, reached, step, fallsOut, .refl⟩

/-- Once a stream is over, however it came to that, a stop asked for does nothing and succeeds, be it
the stream of the session that is open or of an earlier one, unless the session was to write a stop
of its own and could not. Then the stop is written again, with whatever success. All that a client
does is part of such a run. -/
theorem requestStop_over (c : Connection) :
    (∀ x stream, Reach (start c) x → x.Holds stream → stream.isOver = true →
      Session.requestStop ⟨x.connection, stream⟩ = (.ok (), ⟨x.connection, stream⟩) ∨
        ∃ y z, Reach (start c) y ∧ Next y z ∧ FallsOut y z stream ∧ Reach z x) ∧
    (∀ x y stream, FallsOut x y stream → stream.isOver = true ∧
      ((Session.requestStop ⟨y.connection, stream⟩).1,
          (Session.requestStop ⟨y.connection, stream⟩).2.connection.sink)
        = y.connection.sink.sendCommand y.connection.settings.encoding .stop) ∧
    ∀ acts, ∃ x, At (start c) ((Usage.commands c).run acts) x := by
  refine ⟨fun x stream reached held isOver => ?_, fun x y stream fallsOut => ?_, fun acts => ?_⟩
  · -- The right to a stop tells which: a stream that is over has it only after a failed stop of its
    -- own.
    by_cases armed : stream.phase = .armed
    · exact .inr (fallsOut_of_armed reached held isOver armed)
    · exact .inl (Session.requestStop_unarmed armed)
  · -- One that fell out is armed still, so that the request writes.
    obtain ⟨broken, armed⟩ := fallsOut.armed
    obtain ⟨result, sink⟩ := @Session.requestStop_armed ⟨y.connection, stream⟩ armed
    exact ⟨Stream.isOver_of_broken broken, Prod.ext result sink⟩
  · -- The run of a client is one of the shared runs, from its first connection on.
    have atCommands : At (start c) (.commands c) (start c) := ⟨.refl, rfl, rfl⟩
    exact atCommands.run acts

/-- A connection that is cut once a single command was written. -/
def severed : Connection :=
  { Crossing.agreeing with
    sink := ⟨[.upTo UInt64.size], .fault (.system .brokenPipe), none, []⟩ }

/-- A session over such a connection cannot write its stop, and falls out. Another stop is tried all
the same. -/
theorem severed_fallsOut : ∃ x y stream, Reach (start severed) x ∧ Next x y ∧ FallsOut x y stream ∧
    Session.requestStop ⟨y.connection, stream⟩
      = (.error (.ofFault (.system .brokenPipe)), ⟨y.connection, stream⟩) := by
  -- One session is opened, and its transport takes nothing more.
  have opened : Reach (start severed) _ :=
    (Relation.ReflTransGen.single (@Next.ask _ (.tail ['x']) _ rfl rfl)).tail (.opened rfl rfl)
  exact ⟨_, _, _, opened, .stop rfl rfl, ⟨_, _, rfl, rfl, rfl⟩, rfl⟩

/-- Not every stop of a stream that is over does nothing and succeeds. -/
theorem not_requestStop_over : ¬∀ (c : Connection) (x : Shared) (stream : Stream),
    Reach (start c) x → x.Holds stream → stream.isOver = true →
      Session.requestStop ⟨x.connection, stream⟩ = (.ok (), ⟨x.connection, stream⟩) := by
  intro dead
  -- The session that fell out is the counterexample, since its stop fails again.
  obtain ⟨x, y, stream, reached, step, fallsOut, again⟩ := severed_fallsOut
  obtain ⟨broken, _⟩ := fallsOut.armed
  obtain ⟨_, _, _, open_, _⟩ := fallsOut
  have nothing := dead severed y stream (reached.tail step) (.inl (by rw [open_]; rfl))
    (Stream.isOver_of_broken broken)
  rw [again] at nothing
  cases nothing

/-- A stop of a broken stream that fails is that of a session that fell out. -/
theorem requestStop_over_severed : ∃ x stream, Reach (start severed) x ∧ x.Holds stream ∧
    stream.isOver = true ∧ (Session.requestStop ⟨x.connection, stream⟩).1
      = .error (.ofFault (.system .brokenPipe)) ∧
    ∃ y z, Reach (start severed) y ∧ Next y z ∧ FallsOut y z stream ∧ Reach z x := by
  obtain ⟨x, y, stream, reached, step, fallsOut, again⟩ := severed_fallsOut
  obtain ⟨dead, fallen, _⟩ := requestStop_over severed
  obtain ⟨isOver, _⟩ := fallen x y stream fallsOut
  have held : y.Holds stream := by
    obtain ⟨_, _, _, open_, _⟩ := fallsOut
    exact .inl (by rw [open_]; rfl)
  refine ⟨y, stream, reached.tail step, held, isOver, by rw [again], ?_⟩
  -- Had the stop done nothing it would not have failed.
  rcases dead y stream (reached.tail step) held isOver with nothing | fell
  · rw [again] at nothing
    cases nothing
  · exact fell

end Shared
end AmigaRemote
