import AmigaRemote.Proofs.Client.Health
import AmigaRemote.Proofs.Step
import AmigaRemote.Stream.Run

/-! What is done with a stream tells the use of its connection as well. A stream that goes on has a
usable connection, so over an unusable one nothing is left to do. -/

namespace AmigaRemote

/-- Whatever follows a stream, the outcome tells the use of the connection. -/
theorem Connection.leaveStream_truthful (crossedStop : Bool) :
    Truthful id (leaveStream crossedStop) := by
  refine .bind .get fun _ => (setWaitLimit_truthful _).bind fun _ => ?_
  -- The answer to a late stop is read like any other reply.
  split
  · exact (receive_truthful _).bind fun _ => .pure _
  · exact .pure _

namespace Session

variable {α : Type}

/-- What is truthful over a connection is so over that of a session. -/
theorem onConnection_truthful {client : Client α} (truthful : Truthful id client) :
    Truthful connection (onConnection client) :=
  -- The connection is carried through and the stream is put back.
  fun s usable => truthful s.connection usable

/-- A change of the stream leaves the connection alone. -/
theorem update_truthful (change : Stream → Stream) : Truthful connection (update change) :=
  -- The stream is changed and nothing else.
  .modify fun _ => rfl

/-- Going back to commands tells the use of the connection. -/
theorem finish_truthful : Truthful connection finish := by
  intro s usable
  have agrees := onConnection_truthful
    (Connection.leaveStream_truthful s.stream.crossedStop) s usable
  unfold finish
  split
  · rename_i left
    rw [left] at agrees
    exact agrees
  · -- To note the failure in the stream changes nothing about the connection.
    rename_i failed
    rw [failed] at agrees
    exact agrees

/-- What becomes of a chunk tells the use of the connection. -/
theorem process_truthful (taken : Except WireError Chunk) :
    Truthful connection (process taken) := by
  -- A failure is judged by the guard; an end may have an answer behind it to read.
  match taken with
  | .error e =>
    exact (update_truthful _).bind fun _ => onConnection_truthful (Connection.guard_truthful _)
  | .ok (.data bytes) =>
    exact .bind .get fun _ => (update_truthful _).bind fun _ => .pure _
  | .ok .ended =>
    exact (update_truthful _).bind fun _ => finish_truthful.bind fun _ => .pure _
  | .ok (.aborted e) =>
    exact (update_truthful _).bind fun _ => finish_truthful.bind fun _ => .pure _

/-- The next event tells the use of the connection. -/
theorem nextEvent_truthful : Truthful connection nextEvent := by
  intro s usable
  unfold nextEvent
  split
  · -- Nothing is done with a stream that is over.
    exact usable
  · exact (process_truthful (awaitChunk s).1).bind (fun _ => .pure _) (awaitChunk s).2 usable

/-- A stop that could or could not be sent says nothing of the connection. -/
theorem requestStop_health (s : Session) :
    (requestStop s).2.connection.health = s.connection.health := by
  unfold requestStop
  -- Whether the stop is sent, fails or is not tried, the sink is all that changes.
  split
  · rfl
  · split <;> rfl

/-- A stop tells the use of the connection. -/
theorem stop_truthful : Truthful connection stop := by
  intro s usable
  have kept : (requestStop s).2.connection.isUsable = true := by
    rw [Connection.isUsable_iff, requestStop_health]
    exact Connection.isUsable_iff.mp usable
  unfold stop
  split
  · exact usable
  · split
    · rename_i sent
      rw [sent] at kept
      exact kept
    · -- A stop that failed breaks the stream first and then the connection.
      rename_i e _ failed
      rw [failed] at kept
      exact ((update_truthful _).bind fun _ =>
        onConnection_truthful (Connection.guard_truthful (.error e))) _ kept

/-- Events that are forgotten tell the use of the connection. -/
theorem discard_truthful : Truthful connection discard := by
  intro s usable
  -- Every event but the last leaves a usable connection for those after it.
  fun_induction discard s with
  | case1 s after found =>
    have agrees := nextEvent_truthful s usable
    rw [found] at agrees
    exact agrees
  | case2 s e after found =>
    have agrees := nextEvent_truthful s usable
    rw [found] at agrees
    exact agrees
  | case3 s event after found _ ih =>
    have agrees := nextEvent_truthful s usable
    rw [found] at agrees
    exact ih agrees

/-- To cancel a stream tells the use of the connection. -/
theorem cancel_truthful : Truthful connection cancel :=
  -- The stop, the discarded events and the last look are truthful in turn.
  stop_truthful.bind fun _ => discard_truthful.bind fun _ => .bind .get fun _ => .pure _

/-- A stream that goes on only over a usable connection. -/
def InStep (s : Session) : Prop :=
  s.stream.state = .streaming → s.connection.isUsable = true

/-- Over a connection that is of no use, a stream in step is over. -/
theorem InStep.isOver {s : Session} (inStep : InStep s) (unusable : s.connection.isUsable = false) :
    s.stream.isOver = true := by
  -- Streaming in step means a connection that is of use.
  by_cases streaming : s.stream.state = .streaming
  · rw [inStep streaming] at unusable
    cases unusable
  · simpa [Stream.isOver] using streaming

/-- A stream whose connection goes back to commands is over if it was. -/
theorem finish_over {s : Session} (isOver : s.stream.state ≠ .streaming) :
    (finish s).2.stream.state ≠ .streaming := by
  unfold finish
  -- The way back either leaves the stream as it was, or breaks it.
  split
  · rename_i after left
    rw [(onConnection_ok left).2]
    exact isOver
  · exact nofun

/-- A stream that ends is over, whatever becomes of the way back to commands. -/
theorem ends_over {change : Stream → Stream} {event : StreamEvent} {s : Session}
    (isOver : (change s.stream).state ≠ .streaming) :
    ((do update change; finish; return event : Streaming StreamEvent) s).2.stream.state
      ≠ .streaming := by
  have finished := @finish_over { s with stream := change s.stream } isOver
  simp only [Step.bind_apply, update, Step.modify_apply]
  -- Whether the way back succeeds or fails, the stream stays as it left it.
  split
  all_goals
    rename_i outcome
    rw [outcome] at finished
    exact finished

/-- A chunk over a usable connection leaves the stream in step. -/
theorem process_inStep (taken : Except WireError Chunk) {s : Session}
    (usable : s.connection.isUsable = true) : InStep (process taken s).2 := by
  match taken with
  | .error e =>
    -- The stream is broken, so it does not go on.
    have broken : (process (.error e) s).2.stream.state = .broken := rfl
    intro streaming
    rw [broken] at streaming
    cases streaming
  | .ok (.data bytes) => exact fun _ => usable
  | .ok .ended => exact fun streaming => absurd streaming (ends_over nofun)
  | .ok (.aborted e) => exact fun streaming => absurd streaming (ends_over nofun)

/-- The next event leaves a stream in step. -/
theorem nextEvent_inStep : Step.Keeps InStep nextEvent := by
  intro s inStep
  unfold nextEvent
  split
  · exact inStep
  · rename_i goesOn
    -- A stream that goes on has a usable connection, and to wait changes nothing about that.
    have usable : (awaitChunk s).2.connection.isUsable = true := by
      by_cases unusable : s.connection.isUsable = true
      · exact unusable
      · exact absurd (inStep.isOver (by simpa using unusable)) goesOn
    have kept := process_inStep (awaitChunk s).1 usable
    change InStep ((process (awaitChunk s).1 >>= fun event => pure (some event))
      (awaitChunk s).2).2
    rw [Step.bind_apply]
    split
    all_goals
      rename_i outcome
      rw [outcome] at kept
      exact kept

/-- A stop asked for leaves a stream in step. -/
theorem stopElsewhere_inStep : Step.Keeps InStep stopElsewhere := by
  intro s inStep
  change InStep (requestStop s).2
  have health := requestStop_health s
  have state : (requestStop s).2.stream.state = s.stream.state := by
    unfold requestStop
    split
    · rfl
    · split <;> rfl
  -- Neither the stream nor its connection takes notice.
  intro streaming
  rw [state] at streaming
  rw [Connection.isUsable_iff, health]
  exact Connection.isUsable_iff.mp (inStep streaming)

/-- A stop leaves a stream in step. -/
theorem stop_inStep : Step.Keeps InStep stop := by
  intro s inStep
  have kept : InStep (requestStop s).2 := stopElsewhere_inStep inStep
  unfold stop
  split
  · exact inStep
  · split
    · rename_i sent
      rw [sent] at kept
      exact kept
    · rename_i e after _
      -- The stream is broken before the connection is.
      have broken : ((do enter .broken; onConnection (Connection.guard (.error e)) :
          Streaming Unit) after).2.stream.state = .broken := rfl
      intro streaming
      rw [broken] at streaming
      cases streaming

/-- Events that are forgotten keep what every event keeps. -/
theorem discard_keeps {property : Session → Prop} (keeps : Step.Keeps property nextEvent) :
    Step.Keeps property discard := by
  intro s holds
  have kept := keeps holds
  -- The property goes from each event to the next.
  fun_induction discard s with
  | case1 s after found =>
    rw [found] at kept
    exact kept
  | case2 s e after found =>
    rw [found] at kept
    exact kept
  | case3 s event after found _ ih =>
    rw [found] at kept
    exact ih kept (keeps kept)

/-- To cancel keeps what a stop and every event keep. -/
theorem cancel_keeps {property : Session → Prop} (stops : Step.Keeps property stop)
    (keeps : Step.Keeps property nextEvent) : Step.Keeps property cancel :=
  -- The parts keep it in the order in which they are made.
  stops.bind fun _ => (discard_keeps keeps).bind fun _ => .bind .get fun _ => .pure _

/-- To cancel leaves a stream in step. -/
theorem cancel_inStep : Step.Keeps InStep cancel :=
  -- Both the stop and the next event keep it.
  cancel_keeps stop_inStep nextEvent_inStep

/-- Nothing is done with a stream that is over. -/
theorem nextEvent_over {s : Session} (isOver : s.stream.isOver = true) :
    nextEvent s = (.ok none, s) := by
  -- The first test of the call is whether the stream is over.
  simp [nextEvent, isOver]

/-- A stream that is over is not stopped. -/
theorem stop_over {s : Session} (isOver : s.stream.isOver = true) : stop s = (.ok (), s) := by
  -- As for the next event.
  simp [stop, isOver]

/-- To cancel a stream that is over tells its state and does nothing. -/
theorem cancel_over {s : Session} (isOver : s.stream.isOver = true) :
    cancel s = (.ok s.stream.state, s) := by
  -- There are no events left to be forgotten.
  have forgotten : discard s = (.ok (), s) := by
    unfold discard
    split
    all_goals
      rename_i found
      rw [nextEvent_over isOver] at found
      cases found
    rfl
  exact Step.bind_eq_ok.mpr ⟨(), s, stop_over isOver,
    Step.bind_eq_ok.mpr ⟨(), s, forgotten, rfl⟩⟩

/-- A stream over a connection that is of no use is given up without a word. -/
theorem release_unusable {s : Session} (unusable : s.connection.isUsable = false) :
    release s = s := by
  -- Only a ready connection is cancelled over.
  have notReady : s.connection.health ≠ .ready := by
    simpa [Connection.isUsable] using unusable
  simp [release, notReady]

end Session
end AmigaRemote
