import AmigaRemote.Proofs.Client.Exchange
import AmigaRemote.Proofs.Stream.CrossingInvariant

/-! Once a stop was sent, or none may be sent any more, nothing is written for a stream. -/

namespace AmigaRemote

open Step (Keeps)

/-- To go back to commands writes nothing. -/
theorem Connection.leaveStream_written {written : Bytes} (crossedStop : Bool) :
    Keeps (fun c : Connection => c.sink.taken = written) (leaveStream crossedStop) := by
  have silent :
      Keeps (fun c : Connection => c.sink.taken = written) (receive Reader.readResponse) :=
    fun _ same => (congrArg Sink.taken (guard_sink _ _)).trans same
  refine .bind .get fun _ => .bind (fun _ same => same) fun _ => ?_
  -- The answer to a late stop is read, and reading writes nothing.
  split
  · exact silent.bind fun _ => .pure _
  · exact .pure _

namespace Session

/-- A session that has nothing more to write for its stream. -/
structure Settled (written : Bytes) (s : Session) : Prop where
  phase : s.stream.phase ≠ .armed
  same : s.connection.sink.taken = written

variable {α : Type} {written : Bytes} {s : Session}

/-- Where no stop may be sent any more, nothing is to be written. -/
theorem Settled.of_disarmed (disarmed : s.stream.phase = .disarmed)
    (same : s.connection.sink.taken = written) : Settled written s := by
  -- Of the two conditions on the phase the weaker one is asked for.
  have notArmed : s.stream.phase ≠ .armed := by
    rw [disarmed]
    decide
  exact ⟨notArmed, same⟩

/-- A change that takes the right to a stop away writes nothing. -/
theorem update_settled {change : Stream → Stream}
    (disarms : ∀ stream, (change stream).phase = .disarmed) :
    Keeps (Settled written) (update change) := by
  -- The stream is changed and the connection is left alone.
  intro s settled
  exact .of_disarmed (disarms s.stream) settled.same

/-- What writes nothing to a connection writes nothing for a stream over it. -/
theorem onConnection_settled {client : Client α}
    (silent : Keeps (fun c : Connection => c.sink.taken = written) client) :
    Keeps (Settled written) (onConnection client) :=
  -- The stream is put back as it was, with the phase that it had.
  fun _ settled => ⟨settled.phase, silent settled.same⟩

/-- The way back to commands writes nothing. -/
theorem finish_settled : Keeps (Settled written) finish := by
  intro s settled
  have kept := onConnection_settled (Connection.leaveStream_written s.stream.crossedStop) settled
  unfold finish
  -- If the answer does not come, only the state of the stream changes.
  split
  · rename_i left
    rw [left] at kept
    exact kept
  · rename_i failed
    rw [failed] at kept
    exact ⟨kept.phase, kept.same⟩

/-- To look at a chunk writes nothing. -/
theorem process_settled (taken : Except WireError Chunk) :
    Keeps (Settled written) (process taken) := by
  -- Every kind of chunk leaves the sink alone and gives no right to a stop.
  rcases taken with e | bytes | _ | e
  · refine (update_settled fun _ => rfl).bind fun _ => onConnection_settled ?_
    exact fun _ same => (congrArg Sink.taken (Connection.guard_sink _ _)).trans same
  · intro s settled
    change Settled written { s with
      stream := if s.stream.kind.endsOnExit ∧ tellsExit _ then s.stream.endByItself else s.stream }
    split
    · exact .of_disarmed rfl settled.same
    · exact settled
  · exact (update_settled fun _ => rfl).bind fun _ => finish_settled.bind fun _ => .pure _
  · exact (update_settled fun _ => rfl).bind fun _ => finish_settled.bind fun _ => .pure _

/-- Where a stop was sent, or none may be, a stop from within changes nothing either. -/
theorem stop_unarmed (unarmed : s.stream.phase ≠ .armed) : stop s = (.ok (), s) := by
  -- Whether the stream is over or not, the request that a stop makes changes nothing.
  unfold stop
  rw [requestStop_unarmed unarmed]
  split <;> rfl

/-- No step of the thread writes anything. -/
theorem Settled.advance (settled : Settled written s) (point : Point) :
    Settled written (s.advance point).2 := by
  cases point with
  | idle =>
    simp only [Session.advance]
    split
    · exact settled
    · exact ⟨settled.phase, settled.same⟩
  | took taken =>
    rcases taken with e | bytes | _ | e
    · exact process_settled (.error e) settled
    · exact process_settled (.ok (.data bytes)) settled
    -- What ends a stream takes the right to a stop away.
    · exact .of_disarmed rfl settled.same
    · exact .of_disarmed rfl settled.same
  | leaving event => exact finish_settled settled

end Session

namespace Crossing

variable {x y : Crossing} {written : Bytes}

open Session (Settled)

/-- Whatever happens next, nothing is written. -/
theorem settled_next (settled : Settled written x.session) (step : Next x y) :
    Settled written y.session := by
  -- The daemon changes nothing about the session, and stops do nothing any more.
  cases step with
  | arrive => exact ⟨settled.phase, settled.same⟩
  | data | refuse | exit | stopped | answer => exact settled
  | advance => exact settled.advance x.point
  | stop =>
    rw [Session.stop_unarmed settled.phase]
    exact settled
  | stopElsewhere =>
    unfold Session.stopElsewhere
    rw [Session.requestStop_unarmed settled.phase]
    exact settled

/-- Whatever happens from then on, nothing is written. -/
theorem settled_reach (settled : Settled written x.session) (reached : Reach x y) :
    Settled written y.session := by
  -- No step leads out of a session that is settled.
  induction reached with
  | here => exact settled
  | next _ step ih => exact settled_next ih step

/-- Whether a chunk tells the session that its stream is over, or is about to end by itself. -/
def TellsEnd (x : Crossing) : Chunk → Prop
  | .data bytes => TellsExit x.session.stream.kind x.encoding bytes
  | .ended | .aborted _ => True

/-- Once the session has looked at an end or a notice of one, nothing is left to be written. -/
theorem settled_of_tellsEnd {chunk : Chunk} (took : x.point = .took (.ok chunk))
    (tells : x.TellsEnd chunk) : Settled x.written x.advanced.session := by
  -- Each of the three takes the right to a stop away in the step that looks at it.
  rcases chunk with bytes | _ | e
  · have exits : TellsExit x.session.stream.kind x.encoding bytes := tells
    rw [advanced_data took, if_pos exits]
    exact .of_disarmed rfl rfl
  · rw [advanced_ended took]
    exact .of_disarmed rfl rfl
  · rw [advanced_aborted took]
    exact .of_disarmed rfl rfl

end Crossing
end AmigaRemote
