import AmigaRemote.Proofs.Wire.Sending
import Mathlib.Data.List.GetD
import Mathlib.Data.Nat.Find

/-! A command is written by as many writes as it takes, or up to the first one that fails. What each
write does is given in advance, and decides alone how many writes there are, how they end and which
bytes are taken. -/

namespace AmigaRemote

/-- How many bytes a write takes at most. -/
def Acceptance.room : Acceptance → Nat
  | upTo limit => limit
  | fault _ => 0

/-- A write that fails, and how. One that takes nothing would go on so for ever. -/
inductive Acceptance.Fails : Acceptance → Fault → Prop where
  | nothing : Fails (upTo 0) .unfinishedWrite
  | fault {why : Fault} (final : why.kind ≠ .interrupted) : Fails (fault why) why

/-- Every write either fails or does not. -/
theorem Acceptance.reliable_or_fails (acceptance : Acceptance) :
    acceptance.Reliable ∨ ∃ why, acceptance.Fails why := by
  -- A write that takes some bytes is reliable, as is one that is interrupted.
  cases acceptance with
  | upTo limit =>
    cases limit with
    | zero => exact .inr ⟨_, .nothing⟩
    | succ limit => exact .inl (Nat.succ_pos limit)
  | fault why =>
    by_cases again : why.kind = .interrupted
    · exact .inl again
    · exact .inr ⟨why, .fault again⟩

/-- What each write does, in order. -/
abbrev Turns :=
  Nat → Acceptance

namespace Turns

/-- The turns behind the first one. -/
def later (turns : Turns) : Turns :=
  fun n => turns (n + 1)

/-- How many bytes the first writes take at most. -/
def room (turns : Turns) : Nat → Nat
  | 0 => 0
  | n + 1 => turns.room n + (turns n).room

/-- Writes that all take some bytes or are repeated, and yet never take so many. Whoever makes them
waits for ever. -/
def Stalls (turns : Turns) (bytes : Bytes) : Prop :=
  ∀ n, (turns n).Reliable ∧ turns.room n < bytes.length

/-- The first writes, of which none fails and none comes once all bytes are taken. -/
structure Needed (turns : Turns) (bytes : Bytes) (n : Nat) : Prop where
  reliable : ∀ m < n, (turns m).Reliable
  short : ∀ m < n, turns.room m < bytes.length

/-- How many writes there are for some bytes, how they end, and which of the bytes they take. -/
inductive Writes (turns : Turns) (bytes : Bytes) : Nat → Except Fault Unit → Bytes → Prop where
  /-- There are bytes left for a write that fails. -/
  | failed {n : Nat} {why : Fault} (before : turns.Needed bytes n)
    (left : turns.room n < bytes.length) (fails : (turns n).Fails why) :
    Writes turns bytes (n + 1) (.error why) (bytes.take (turns.room n))
  | all {n : Nat} (needed : turns.Needed bytes n) (enough : bytes.length ≤ turns.room n) :
    Writes turns bytes n (.ok ()) bytes

variable {turns : Turns} {bytes part : Bytes} {n : Nat} {outcome : Except Fault Unit}

/-- No write is needed before the first one. -/
theorem needed_zero : turns.Needed bytes 0 where
  -- There is no write before the first to speak of.
  reliable := nofun
  short := nofun

/-- The first write takes its bytes in front of those that the later ones take. -/
theorem room_succ (turns : Turns) (n : Nat) :
    turns.room (n + 1) = (turns 0).room + turns.later.room n := by
  -- By induction on the number of writes, which are summed from the first on.
  induction n with
  | zero => simp [room]
  | succ n ih =>
    rw [room, ih, Nat.add_assoc]
    rfl

/-- Writes that take nothing have room for nothing. -/
theorem room_eq_zero (none : ∀ m, (turns m).room = 0) : turns.room n = 0 := by
  -- By induction on the number of writes.
  induction n with
  | zero => rfl
  | succ n ih => rw [room, ih, none n]

/-- The first write is needed if there is anything to be written, and behind it those that are
needed for what it left. -/
theorem Needed.behind (some : bytes ≠ []) (reliable : (turns 0).Reliable)
    (needed : turns.later.Needed (bytes.drop (turns 0).room) n) : turns.Needed bytes (n + 1) where
  reliable := by
    intro m within
    -- The first write is reliable, and every later one is one later among the rest.
    cases m with
    | zero => exact reliable
    | succ m => exact needed.reliable m (by omega)
  short := by
    intro m within
    cases m with
    | zero => exact List.length_pos_iff.mpr some
    | succ m =>
      have short := needed.short m (by omega)
      rw [List.length_drop] at short
      rw [room_succ]
      omega

/-- A write that does not fail takes the front of the bytes, and the later ones go on with the
rest. -/
theorem Writes.behind (some : bytes ≠ []) (reliable : (turns 0).Reliable)
    (writes : turns.later.Writes (bytes.drop (turns 0).room) n outcome part) :
    turns.Writes bytes (n + 1) outcome (bytes.take (turns 0).room ++ part) := by
  -- What is left after the first write is what the later ones are about.
  cases writes with
  | failed before left fails =>
    rw [← List.take_add, ← room_succ]
    refine .failed (before.behind some reliable) ?_ fails
    rw [List.length_drop] at left
    rw [room_succ]
    omega
  | all needed enough =>
    rw [List.take_append_drop]
    refine .all (needed.behind some reliable) ?_
    rw [List.length_drop] at enough
    rw [room_succ]
    omega

/-- Writes that stall on what the first one leaves stall on the whole. -/
theorem Stalls.behind (reliable : (turns 0).Reliable)
    (stalls : turns.later.Stalls (bytes.drop (turns 0).room)) : turns.Stalls bytes := by
  -- As long as the first write leaves something, the later ones go on stalling on it.
  intro n
  cases n with
  | zero =>
    have left : 0 < (bytes.drop (turns 0).room).length := (stalls 0).2
    rw [List.length_drop] at left
    refine ⟨reliable, ?_⟩
    show 0 < bytes.length
    omega
  | succ n =>
    obtain ⟨others, left⟩ := stalls n
    rw [List.length_drop] at left
    rw [room_succ]
    exact ⟨others, by omega⟩

/-- Nothing is written in no write. -/
theorem writes_nil (turns : Turns) : turns.Writes [] 0 (.ok ()) [] :=
  -- No bytes leave any write without anything to do.
  .all needed_zero (Nat.zero_le 0)

/-- A first write that fails is the only one. -/
theorem writes_failed {why : Fault} (some : bytes ≠ []) (fails : (turns 0).Fails why) :
    turns.Writes bytes 1 (.error why) [] :=
  -- The bytes of the first write are all that is left.
  .failed needed_zero (List.length_pos_iff.mpr some) fails

/-- Writes that do not fail end as soon as they have taken enough, if they ever do. -/
theorem exists_writes_all (reliable : ∀ n, (turns n).Reliable) (moves : ¬turns.Stalls bytes) :
    ∃ n, turns.Writes bytes n (.ok ()) bytes := by
  have enough : ∃ n, bytes.length ≤ turns.room n := by
    by_contra short
    simp only [not_exists, Nat.not_le] at short
    exact moves fun n => ⟨reliable n, short n⟩
  -- There are as many writes as are needed at least.
  refine ⟨Nat.find enough, .all ⟨fun m _ => reliable m, ?_⟩ (Nat.find_spec enough)⟩
  intro m within
  have short := Nat.find_min enough within
  omega

/-- What is taken is a front of the bytes, and all of them exactly if no write fails. -/
theorem Writes.took (writes : turns.Writes bytes n outcome part) :
    part <+: bytes ∧ (outcome = .ok () ↔ part = bytes) := by
  -- A failure leaves a front of the bytes, and success leaves all of them.
  cases writes with
  | failed before left fails =>
    refine ⟨List.take_prefix _ _, iff_of_false nofun ?_⟩
    intro whole
    have length := congrArg List.length whole
    rw [List.length_take] at length
    omega
  | all needed enough => exact ⟨List.prefix_refl bytes, iff_of_true rfl rfl⟩

end Turns

namespace Sink

/-- What the writes to a sink do, in order. -/
def turns (s : Sink) : Turns :=
  fun n => s.script.getD n s.after

/-- Only where every write is interrupted in the end may writes stall. -/
theorem interrupted_of_stalls {s : Sink} {bytes : Bytes} (stalls : s.turns.Stalls bytes) :
    ∃ why, s.after = .fault why ∧ why.kind = .interrupted := by
  -- Behind the script all writes do the same.
  have steady (n : Nat) : s.turns (s.script.length + n) = s.after := by
    unfold turns
    rw [List.getD_eq_default _ _ (by omega)]
  have reliable := (stalls s.script.length).1
  rw [← Nat.add_zero s.script.length, steady 0] at reliable
  cases same : s.after with
  | fault why =>
    rw [same] at reliable
    exact ⟨why, rfl, reliable⟩
  | upTo limit =>
    rw [same] at reliable steady
    have positive : 0 < limit := reliable
    -- Each of them takes one byte at least, so as many as there are bytes are enough.
    have grows (n : Nat) : n ≤ s.turns.room (s.script.length + n) := by
      induction n with
      | zero => exact Nat.zero_le _
      | succ n ih =>
        show n + 1 ≤ s.turns.room (s.script.length + n) + (s.turns (s.script.length + n)).room
        rw [steady n]
        exact Nat.add_le_add ih positive
    have enough := grows bytes.length
    have short := (stalls (s.script.length + bytes.length)).2
    omega

variable {s : Sink} {bytes : Bytes} {acceptance : Acceptance} {later : List Acceptance}

/-- Where every write fails, the first one does. -/
theorem writeSteadily_of_fails {why : Fault} (some : bytes ≠ []) (fails : s.after.Fails why) :
    s.writeSteadily bytes = (.error why, s) := by
  -- What the sink goes on with is a fault or a limit of zero, and both are failures.
  unfold writeSteadily
  cases steady : s.after with
  | upTo limit =>
    rw [steady] at fails
    cases fails
    exact if_pos ⟨some, rfl⟩
  | fault why =>
    rw [steady] at fails
    cases fails
    exact if_neg some

/-- Where every write takes some bytes, all are taken. -/
theorem writeSteadily_of_upTo {limit : Nat} (steady : s.after = .upTo limit)
    (positive : 0 < limit) : s.writeSteadily bytes = (.ok (), s.took bytes) := by
  -- The sink takes some bytes at each write, so that all are taken in the end.
  unfold writeSteadily
  rw [steady]
  apply if_neg
  omega

/-- Writes that all do the same either fail at once or go on until they have taken enough. -/
theorem writeSteadily_writes (done : s.script = []) (moves : ¬s.turns.Stalls bytes) :
    ∃ n outcome part, s.turns.Writes bytes n outcome part ∧
      s.writeSteadily bytes = (outcome, s.took part) := by
  have same (n : Nat) : s.turns n = s.after := by
    unfold turns
    rw [done]
    rfl
  by_cases nothing : bytes = []
  · subst nothing
    refine ⟨0, .ok (), [], Turns.writes_nil s.turns, ?_⟩
    unfold writeSteadily
    split
    all_goals simp [took]
  rcases s.after.reliable_or_fails with reliable | ⟨why, fails⟩
  · have reliable' (n : Nat) : (s.turns n).Reliable := by rwa [same n]
    cases steady : s.after with
    | upTo limit =>
      rw [steady] at reliable
      obtain ⟨n, writes⟩ := Turns.exists_writes_all reliable' moves
      exact ⟨n, .ok (), bytes, writes, writeSteadily_of_upTo steady reliable⟩
    | fault why =>
      -- Writes that are always interrupted take nothing, and so never enough.
      refine absurd (fun n => ⟨reliable' n, ?_⟩) moves
      have none : s.turns.room n = 0 := Turns.room_eq_zero fun m => by rw [same m, steady]; rfl
      rw [none]
      exact List.length_pos_iff.mpr nothing
  · have first : (s.turns 0).Fails why := by rwa [same 0]
    refine ⟨1, .error why, [], Turns.writes_failed nothing first, ?_⟩
    rw [writeSteadily_of_fails nothing fails]
    simp [took]

/-- A write that does not fail is followed by others for what it left. -/
theorem writeScripted_of_reliable (some : bytes ≠ []) (reliable : acceptance.Reliable) :
    s.writeScripted bytes (acceptance :: later)
      = (s.took (bytes.take acceptance.room)).writeScripted (bytes.drop acceptance.room) later := by
  -- The write takes bytes or is interrupted, and in both cases the others follow.
  cases acceptance with
  | upTo limit =>
    cases limit with
    | zero => cases reliable
    | succ limit =>
      rw [writeScripted, if_neg some]
      rfl
  | fault why =>
    have again : why.kind = .interrupted := reliable
    rw [writeScripted, if_neg some, if_pos again]
    simp [Acceptance.room, took]

/-- A write that fails is the last one. -/
theorem writeScripted_of_fails {why : Fault} (some : bytes ≠ []) (fails : acceptance.Fails why) :
    s.writeScripted bytes (acceptance :: later) = (.error why, { s with script := later }) := by
  -- A write of no bytes and a fault fail alike.
  cases fails with
  | nothing => rw [writeScripted, if_neg some]
  | fault final => rw [writeScripted, if_neg some, if_neg final]

/-- Writes go on until one fails or all is taken. -/
theorem writeScripted_writes {script : List Acceptance}
    (moves : ¬Turns.Stalls (turns { s with script }) bytes) :
    ∃ n outcome part, Turns.Writes (turns { s with script }) bytes n outcome part ∧
      s.writeScripted bytes script
        = (outcome, { s with script := script.drop n, taken := s.taken ++ part }) := by
  -- Each write of the script leaves a shorter one, and the writes behind it always do the same.
  induction script generalizing s bytes with
  | nil =>
    obtain ⟨n, outcome, part, writes, written⟩ :=
      @writeSteadily_writes { s with script := [] } bytes rfl moves
    refine ⟨n, outcome, part, writes, ?_⟩
    rw [List.drop_nil]
    exact written
  | cons acceptance later ih =>
    by_cases nothing : bytes = []
    · subst nothing
      refine ⟨0, .ok (), [], Turns.writes_nil _, ?_⟩
      simp [writeScripted]
    rcases acceptance.reliable_or_fails with reliable | ⟨why, fails⟩
    · have moves' : ¬Turns.Stalls (turns { s with script := later })
          (bytes.drop acceptance.room) := by
        intro stalls
        exact moves (.behind reliable stalls)
      obtain ⟨n, outcome, part, writes, written⟩ :=
        @ih (s.took (bytes.take acceptance.room)) _ moves'
      refine ⟨n + 1, outcome, _, .behind nothing reliable writes, ?_⟩
      rw [writeScripted_of_reliable nothing reliable, written, List.drop_succ_cons,
        ← List.append_assoc]
      rfl
    · refine ⟨1, .error why, [], Turns.writes_failed nothing fails, ?_⟩
      rw [writeScripted_of_fails nothing fails]
      simp

/-- How many writes there are for what is sent, how they end with the bytes pushed out, and which of
the bytes are taken. -/
inductive Sends (s : Sink) (bytes : Bytes) : Nat → Except Fault Unit → Bytes → Prop where
  | unwritten {n : Nat} {why : Fault} {part : Bytes}
    (writes : s.turns.Writes bytes n (.error why) part) : Sends s bytes n (.error why) part
  | unflushed {n : Nat} {why : Fault} {part : Bytes} (writes : s.turns.Writes bytes n (.ok ()) part)
    (fails : s.flushFault = some why) : Sends s bytes n (.error why) part
  | whole {n : Nat} {part : Bytes} (writes : s.turns.Writes bytes n (.ok ()) part)
    (flushes : s.flushFault = none) : Sends s bytes n (.ok ()) part

/-- What is taken is a front of what is sent, and nothing fails exactly if it is the whole and can
be pushed out. -/
theorem Sends.took {n : Nat} {outcome : Except Fault Unit} {part : Bytes}
    (sends : s.Sends bytes n outcome part) :
    part <+: bytes ∧ (outcome = .ok () ↔ part = bytes ∧ s.flushFault = none) := by
  -- What was sent was not written, or not pushed out, or both succeeded.
  cases sends with
  | unwritten writes =>
    obtain ⟨front, whole⟩ := writes.took
    exact ⟨front, iff_of_false nofun fun ⟨all, _⟩ => nomatch whole.mpr all⟩
  | unflushed writes fails =>
    refine ⟨writes.took.1, iff_of_false nofun ?_⟩
    rintro ⟨_, flushes⟩
    rw [flushes] at fails
    cases fails
  | whole writes flushes =>
    obtain ⟨front, whole⟩ := writes.took
    exact ⟨front, iff_of_true rfl ⟨whole.mp rfl, flushes⟩⟩

/-- What is sent is written and pushed out. -/
theorem send_sends (moves : ¬s.turns.Stalls bytes) :
    ∃ n outcome part, s.Sends bytes n outcome part ∧
      s.send bytes
        = (outcome, { s with script := s.script.drop n, taken := s.taken ++ part }) := by
  -- The bytes are written first, and pushed out only if that went well.
  obtain ⟨n, outcome, part, writes, written⟩ := @writeScripted_writes s bytes s.script moves
  unfold send
  rw [written]
  cases outcome with
  | error why => exact ⟨n, .error why, part, .unwritten writes, rfl⟩
  | ok _ =>
    cases flush : s.flushFault with
    | some why => exact ⟨n, .error why, part, .unflushed writes flush, by simp only⟩
    | none => exact ⟨n, .ok (), part, .whole writes flush, by simp only⟩

/-- A command that has no bytes leaves a sink as it is, and says why. Of any other command the bytes
are written in order by as many writes as are needed, or up to the first that fails. Nothing but a
front of the bytes is taken, and the outcome is a success exactly if that is all of them and they
can be pushed out; otherwise it is what the wire calls the failure of that write, or of pushing them
out. Nothing is said of writes that are interrupted for ever, as they never end. -/
theorem sendCommand_exact (s : Sink) (encoding : Encoding) (command : Command) :
    (∀ e, command.encode encoding = .error e → s.sendCommand encoding command = (.error e, s)) ∧
    ∀ bytes, command.encode encoding = .ok bytes → ¬s.turns.Stalls bytes →
      ∃ n outcome part, s.Sends bytes n outcome part ∧
        s.sendCommand encoding command = (outcome.mapError .ofFault,
          { s with script := s.script.drop n, taken := s.taken ++ part }) ∧
        part <+: bytes ∧ (outcome = .ok () ↔ part = bytes ∧ s.flushFault = none) := by
  constructor
  · -- A command without bytes is refused before the sink is asked.
    intro e refused
    unfold sendCommand
    rw [refused]
  · -- What the sending makes of the bytes is what the writes make of them.
    intro bytes encoded moves
    obtain ⟨n, outcome, part, sends, sent⟩ := send_sends moves
    refine ⟨n, outcome, part, sends, ?_, sends.took⟩
    unfold sendCommand
    rw [encoded]
    show s.transmit bytes = _
    rw [transmit_eq, sent]

/-- A sink that takes two bytes behind an interruption, and nothing more. -/
def faltering : Sink :=
  ⟨[.fault (.ofKind .interrupted), .upTo 2], .upTo 0, none, []⟩

/-- Two bytes of a ping are taken before a write takes nothing. What has a line break is not
begun. -/
theorem sendCommand_exact_faltering :
    (∃ n outcome, faltering.Sends [80, 73, 78, 71, 10] n outcome [80, 73] ∧
      faltering.sendCommand .latin1 .ping
        = (.error (.transport .unfinishedWrite), { faltering with script := [], taken := [80, 73] }) ∧
      outcome.mapError .ofFault = .error (WireError.transport .unfinishedWrite)) ∧
    faltering.sendCommand .latin1 (.raw ['\n'])
      = (.error (.invalidArgument (.lineBreak (Command.raw ['\n']).verb)), faltering) := by
  constructor
  -- The sink faults by itself at the second write, so that it does not stall.
  · have moves : ¬faltering.turns.Stalls [80, 73, 78, 71, 10] := by
      intro stalls
      obtain ⟨why, isFault, _⟩ := interrupted_of_stalls stalls
      cases isFault
    obtain ⟨n, outcome, part, sends, sent, _⟩ :=
      (sendCommand_exact faltering .latin1 .ping).2 _ rfl moves
    -- The answer is known by computation, and what the writes took is read off it.
    have known : faltering.sendCommand .latin1 .ping = (.error (.transport .unfinishedWrite),
      { faltering with script := [], taken := [80, 73] }) := rfl
    obtain ⟨failure, after⟩ := Prod.mk.inj (known.symm.trans sent)
    obtain rfl : [80, 73] = part := congrArg Sink.taken after
    exact ⟨n, outcome, sends, known, failure.symm⟩
  · exact (sendCommand_exact faltering .latin1 (.raw ['\n'])).1 _ rfl

end Sink
end AmigaRemote
