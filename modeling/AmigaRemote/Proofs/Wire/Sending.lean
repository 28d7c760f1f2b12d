import AmigaRemote.Proofs.Except
import AmigaRemote.Proofs.Wire.Framing
import AmigaRemote.Wire.Sending

/-! What is written arrives as a front of what was to be written, and as all of it if nothing fails.
A command that cannot be written as a line is not begun. -/

namespace AmigaRemote

namespace Sink

/-- A part of what was to be written that has been taken, and all of it after a success. -/
def Took (bytes before : Bytes) (outcome : Except Fault Unit × Sink) : Prop :=
  ∃ part, part <+: bytes ∧ outcome.2.taken = before ++ part ∧ (outcome.1 = .ok () → part = bytes)

/-- Bytes behind others that were taken are taken behind all of them. -/
theorem Took.behind {first bytes before : Bytes} {outcome : Except Fault Unit × Sink}
    (took : Took bytes (before ++ first) outcome) : Took (first ++ bytes) before outcome := by
  obtain ⟨part, front, all, whole⟩ := took
  -- The first bytes stand before whatever part was taken of the others.
  refine ⟨first ++ part, (List.prefix_append_right_inj first).mpr front, by simp [all], ?_⟩
  intro success
  rw [whole success]

/-- Writes that all do the same take a part in order. -/
theorem writeSteadily_took (s : Sink) (bytes : Bytes) :
    Took bytes s.taken (s.writeSteadily bytes) := by
  unfold writeSteadily
  -- Either every write fails, or none of them takes anything, or all takes all.
  split
  · split
    · rename_i none
      exact ⟨[], List.nil_prefix, by simp, fun _ => none.symm⟩
    · exact ⟨[], List.nil_prefix, by simp, nofun⟩
  · split
    · exact ⟨[], List.nil_prefix, by simp, nofun⟩
    · exact ⟨bytes, List.prefix_refl bytes, rfl, fun _ => rfl⟩

/-- Writes take a part in order, whatever each of them does. -/
theorem writeScripted_took (s : Sink) (bytes : Bytes) (script : List Acceptance) :
    Took bytes s.taken (s.writeScripted bytes script) := by
  -- Each write takes the front of what is left.
  induction script generalizing s bytes with
  | nil => exact writeSteadily_took { s with script := [] } bytes
  | cons acceptance later ih =>
    unfold writeScripted
    split
    · rename_i none
      exact ⟨[], List.nil_prefix, by simp, fun _ => none.symm⟩
    · split
      · exact ⟨[], List.nil_prefix, by simp, nofun⟩
      · rename_i limit
        -- What one write takes stands before what the later ones take.
        have rest := (ih (s.took (bytes.take (limit + 1))) (bytes.drop (limit + 1))).behind
        rw [List.take_append_drop] at rest
        exact rest
      · split
        · exact ih s bytes
        · exact ⟨[], List.nil_prefix, by simp, nofun⟩

/-- What is sent is taken in order, and all of it if nothing fails. -/
theorem send_took (s : Sink) (bytes : Bytes) : Took bytes s.taken (s.send bytes) := by
  obtain ⟨part, front, all, whole⟩ := writeScripted_took s bytes s.script
  unfold send
  split
  · rename_i failed
    rw [failed] at all
    exact ⟨part, front, all, nofun⟩
  · rename_i written
    rw [written] at all whole
    -- To push out what was taken may still fail, but takes nothing back.
    split
    · exact ⟨part, front, all, nofun⟩
    · exact ⟨part, front, all, fun _ => whole rfl⟩

/-- Failures of what is sent are called by the names that the wire has for them. -/
theorem transmit_eq (s : Sink) (bytes : Bytes) :
    s.transmit bytes = ((s.send bytes).1.mapError .ofFault, (s.send bytes).2) := by
  -- The two differ in the name of the failure alone.
  unfold transmit
  rcases s.send bytes with ⟨why | _, after⟩
  all_goals rfl

/-- What becomes of the bytes does not depend on how failures are called. -/
theorem transmit_sink (s : Sink) (bytes : Bytes) : (s.transmit bytes).2 = (s.send bytes).2 :=
  -- The name of the failure is no part of the sink.
  congrArg Prod.snd (transmit_eq s bytes)

/-- What was transmitted was taken. -/
theorem transmit_ok {s after : Sink} {bytes : Bytes} (sent : s.transmit bytes = (.ok (), after)) :
    after.taken = s.taken ++ bytes := by
  obtain ⟨part, _, all, whole⟩ := send_took s bytes
  unfold transmit at sent
  -- All of it was taken, for it was a success.
  split at sent
  · rename_i success
    cases sent
    rw [success] at all whole
    rw [all, whole rfl]
  · simp at sent

/-- What cannot be transmitted fails for an outage. -/
theorem transmit_error {s after : Sink} {bytes : Bytes} {e : WireError}
    (failed : s.transmit bytes = (.error e, after)) : e.isOutage = true := by
  -- The only failure is that of the sink, which is a fault.
  unfold transmit at failed
  split at failed
  · simp at failed
  · cases failed
    exact WireError.isOutage_ofFault _

end Sink

/-- A write that takes some bytes, or is repeated. -/
def Acceptance.Reliable : Acceptance → Prop
  | upTo limit => 0 < limit
  | fault why => why.kind = .interrupted

namespace Sink

/-- A sink that takes everything in the end. -/
structure Reliable (s : Sink) : Prop where
  script : ∀ acceptance ∈ s.script, acceptance.Reliable
  after : ∃ limit, s.after = .upTo limit ∧ 0 < limit
  flush : s.flushFault = none

/-- Reliable writes do not fail. -/
theorem writeScripted_reliable {s : Sink} (bytes : Bytes) {script : List Acceptance}
    (progress : ∀ acceptance ∈ script, acceptance.Reliable)
    (steady : ∃ limit, s.after = .upTo limit ∧ 0 < limit) (flush : s.flushFault = none) :
    ∃ after, s.writeScripted bytes script = (.ok (), after) ∧ after.Reliable := by
  -- Each write of the script is followed by a shorter one, and then by writes that take some.
  induction script generalizing s bytes with
  | nil =>
    obtain ⟨limit, same, positive⟩ := steady
    refine ⟨{ s with script := [] }.took bytes, ?_, ?_⟩
    · have some : ¬(bytes ≠ [] ∧ limit = 0) := fun ⟨_, zero⟩ => by omega
      simp only [writeScripted, writeSteadily, same, if_neg some]
    · exact ⟨nofun, ⟨limit, same, positive⟩, flush⟩
  | cons acceptance later ih =>
    have rest : ∀ acceptance ∈ later, acceptance.Reliable :=
      fun other member => progress other (List.mem_cons_of_mem _ member)
    have first := progress acceptance List.mem_cons_self
    unfold writeScripted
    split
    · exact ⟨_, rfl, progress, steady, flush⟩
    · split
      · cases first
      · exact @ih (s.took _) _ rest steady flush
      · -- Nothing was taken, so the same bytes are offered again.
        rw [if_pos (show _ = FaultKind.interrupted from first)]
        exact @ih s _ rest steady flush

/-- A reliable sink takes all that is sent, and stays reliable. -/
theorem send_reliable {s : Sink} (reliable : s.Reliable) (bytes : Bytes) :
    ∃ after, s.send bytes = (.ok (), after) ∧ after.Reliable ∧
      after.taken = s.taken ++ bytes := by
  obtain ⟨after, written, reliable'⟩ :=
    writeScripted_reliable bytes reliable.script reliable.after reliable.flush
  have sent : s.send bytes = (.ok (), after) := by
    simp only [send, written, reliable'.flush]
  -- After a success no part is missing.
  obtain ⟨part, _, all, whole⟩ := send_took s bytes
  rw [sent] at all whole
  rw [whole rfl] at all
  exact ⟨after, sent, reliable', all⟩

end Sink

/-- A text without bytes is refused before anything is sent. -/
theorem Encoding.encode_error {encoding : Encoding} {text : Text} {e : WireError}
    (refused : encoding.encode text = .error e) : e.beforeSending = true := by
  -- Every text has bytes in UTF-8.
  cases encoding with
  | latin1 =>
    simp only [encode] at refused
    split at refused
    · cases refused
      rfl
    · simp at refused
  | utf8 => simp [encode] at refused

namespace Command

/-- A line without bytes is refused before anything is sent. -/
theorem encodeLine_error {verb line : Text} {encoding : Encoding} {e : WireError}
    (refused : encodeLine verb encoding line = .error e) : e.beforeSending = true := by
  unfold encodeLine at refused
  -- A line break is looked for first, and then a character without bytes.
  by_cases breaks : line.any breaksLine = true
  · simp only [breaks, if_true] at refused
    cases refused
    rfl
  · simp only [breaks] at refused
    rcases Except.bind_eq_error.mp refused with unencodable | ⟨_, _, written⟩
    · exact Encoding.encode_error unencodable
    · cases written

/-- Lines without bytes are refused before anything is sent. -/
theorem encodeLines_error {verb : Text} {lines : List Text} {encoding : Encoding} {e : WireError}
    (refused : lines.mapM (encodeLine verb encoding) = .error e) : e.beforeSending = true := by
  induction lines with
  | nil => cases refused
  | cons line lines ih =>
    rw [List.mapM_cons] at refused
    -- The first line that cannot be written decides.
    rcases Except.bind_eq_error.mp refused with first | ⟨_, _, refused⟩
    · exact encodeLine_error first
    · rcases Except.bind_eq_error.mp refused with others | ⟨_, _, written⟩
      · exact ih others
      · cases written

/-- A command without bytes is refused before anything is sent. -/
theorem encode_error {command : Command} {encoding : Encoding} {e : WireError}
    (refused : command.encode encoding = .error e) : e.beforeSending = true := by
  -- The encoding of a line fails, or all lines are encoded.
  unfold encode at refused
  rcases Except.bind_eq_error.mp refused with lines | ⟨_, _, written⟩
  · exact encodeLines_error lines
  · cases written

end Command

namespace Sink

/-- What was sent are the bytes of the command. -/
theorem sendCommand_ok {s after : Sink} {encoding : Encoding} {command : Command}
    (sent : s.sendCommand encoding command = (.ok (), after)) :
    ∃ bytes, command.encode encoding = .ok bytes ∧ after.taken = s.taken ++ bytes := by
  unfold sendCommand at sent
  -- Without bytes nothing would have been sent.
  split at sent
  · simp at sent
  · rename_i bytes encoded
    exact ⟨bytes, encoded, transmit_ok sent⟩

/-- A command that was not sent either has no bytes, and then nothing was touched, or met an
outage. -/
theorem sendCommand_error {s after : Sink} {encoding : Encoding} {command : Command}
    {e : WireError} (failed : s.sendCommand encoding command = (.error e, after)) :
    command.encode encoding = .error e ∧ e.beforeSending = true ∧ after = s ∨
      ∃ bytes, command.encode encoding = .ok bytes ∧ e.isOutage = true := by
  unfold sendCommand at failed
  -- A command is encoded as a whole before its first byte is sent.
  split at failed
  · rename_i refused
    cases failed
    exact .inl ⟨refused, Command.encode_error refused, rfl⟩
  · rename_i bytes encoded
    exact .inr ⟨bytes, encoded, transmit_error failed⟩

end Sink
end AmigaRemote
