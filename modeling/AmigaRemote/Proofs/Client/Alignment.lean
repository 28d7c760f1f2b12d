import AmigaRemote.Proofs.Client.Answered

/-! Replies keep in line with commands over whole runs of operations: as long as a connection is
usable, what was sent are the commands and what was taken are their replies, one after the other. -/

namespace AmigaRemote.Connection

variable {c after : Connection}

/-- A run of operations in which every request for a stream is refused. -/
inductive Ran : Connection → List Operation → Connection → Prop where
  | nothing (c : Connection) : Ran c [] c
  | next {c after : Connection} {op : Operation} {ops : List Operation}
    (refused : ∀ request stream, op = .openStream request →
      (openStream request c).1 ≠ .ok stream)
    (later : Ran (op.perform c).2 ops after) : Ran c (op :: ops) after

/-- A connection that is usable after a run was so before it. -/
theorem Ran.usable {ops : List Operation} (ran : Ran c ops after) (usable : after.isUsable = true) :
    c.isUsable = true := by
  -- What was of no use before an operation is of none after it.
  induction ran with
  | nothing => exact usable
  | @next c _ op _ _ _ ih =>
    by_cases ready : c.isUsable = true
    · exact ready
    · have still := op.perform_unusable (by simpa using ready)
      rw [still] at ih
      exact ih usable

/-- Over a run that leaves the connection usable, the commands that were sent and their replies
follow one another, one exchange for each operation that was sent. -/
theorem Ran.aligned {ops : List Operation} (ran : Ran c ops after)
    (usable : after.isUsable = true) (agree : c.reader.encoding = c.settings.encoding) :
    ∃ exchanges : List Exchange,
      exchanges.map Exchange.operation = ops.filter (Operation.isSent c.settings.encoding) ∧
      (∀ x ∈ exchanges, x.Proper c.settings.encoding) ∧
      Moved c after (exchanges.flatMap Exchange.sent) (exchanges.flatMap Exchange.taken) := by
  -- The first operation is refused and does nothing, or is an exchange before all others.
  induction ran with
  | nothing c => exact ⟨[], rfl, nofun, .refl c⟩
  | @next c after op ops refused later ih =>
    rcases perform_exchanged agree refused (later.usable usable) with
      ⟨notSent, same⟩ | ⟨isSent, x, rfl, proper, moved⟩
    · rw [same] at ih
      obtain ⟨exchanges, operations, all, whole⟩ := ih usable agree
      exact ⟨exchanges, by rw [operations, List.filter_cons_of_neg (by simp [notSent])], all, whole⟩
    · have agree' : (x.operation.perform c).2.reader.encoding
          = (x.operation.perform c).2.settings.encoding := by
        rw [moved.encoding, moved.settings]
        exact agree
      obtain ⟨exchanges, operations, all, whole⟩ := ih usable agree'
      rw [moved.settings] at operations all
      -- The exchange of the first operation comes before those of the others.
      refine ⟨x :: exchanges, ?_, ?_, ?_⟩
      · rw [List.map_cons, operations, List.filter_cons_of_pos isSent]
      · intro other member
        rcases List.mem_cons.mp member with rfl | member
        · exact proper
        · exact all other member
      · simpa using moved.trans whole

/-- A greeting takes one line and sends nothing. -/
theorem greet_ok {settings : Settings} {source : Source} {sink : Sink} {reader : Reader}
    (greeted : greet settings source sink = (.ok c, reader)) :
    c.sink = sink ∧ c.settings = settings ∧ c.reader.encoding = settings.encoding ∧
      ∃ frame, LineFrame settings.encoding c.banner frame ∧
        source.content = frame ++ c.unread := by
  unfold greet at greeted
  split at greeted
  · cases greeted
  · rename_i banner after read
    split at greeted
    · cases greeted
    · cases greeted
      -- The banner is the first line, and all that was consumed.
      obtain ⟨frame, isLine, front, kept⟩ := Reader.readLine_takes read
      refine ⟨rfl, rfl, kept, frame, isLine, ?_⟩
      simpa [Reader.unread, Reader.ofSource, unread] using front

/-- As long as a connection is usable, what was taken since the beginning is the greeting and then
one whole reply for each command that was sent, in the order of sending, and what was sent are those
commands, with the data of uploads that were asked for. An operation whose command is not sent is
refused and does nothing at all. -/
theorem replies_aligned {settings : Settings} {source : Source} {sink : Sink} {reader : Reader}
    {ops : List Operation} (greeted : greet settings source sink = (.ok c, reader))
    (ran : Ran c ops after) (usable : after.isUsable = true) :
    (∃ (banner : Bytes) (exchanges : List Exchange), LineFrame settings.encoding c.banner banner ∧
      exchanges.map Exchange.operation = ops.filter (Operation.isSent settings.encoding) ∧
      (∀ x ∈ exchanges, x.Proper settings.encoding) ∧
      source.content = banner ++ exchanges.flatMap Exchange.taken ++ after.unread ∧
      after.sink.taken = sink.taken ++ exchanges.flatMap Exchange.sent) ∧
    ∀ op, Operation.isSent settings.encoding op = false →
      ∃ e, e.beforeSending = true ∧ op.perform after = (.error (.wire e), after) := by
  obtain ⟨rfl, rfl, agree, banner, isLine, front⟩ := greet_ok greeted
  -- What was there before the first operation is the greeting.
  obtain ⟨exchanges, operations, all, moved⟩ := ran.aligned usable agree
  refine ⟨⟨banner, exchanges, isLine, operations, all, ?_, moved.written⟩, fun op notSent => ?_⟩
  · rw [front, moved.read, List.append_assoc]
  · rw [← moved.settings] at notSent
    exact perform_refused notSent usable

/-- A daemon that greets and refuses one command. -/
def refusing : Source :=
  ⟨[.bytes [65, 77, 73, 71, 65, 67, 84, 76, 32, 49, 46, 48, 46, 48, 10, 69, 82]
        (by decide),
      .bytes [82, 32, 50, 48, 48, 32, 110, 111, 10, 46, 10] (by decide)], .silent⟩

/-- The connection to a daemon that will refuse one command, after the greeting. -/
def greetedByRefusing : Connection where
  reader := ⟨[69, 82], ⟨refusing.deliveries.drop 1, .silent⟩, .latin1⟩
  sink := .accepting
  settings := .usual
  health := .ready
  waitLimit? := Settings.usual.replyLimit?
  banner := "AMIGACTL 1.0.0".toList
  version := ⟨1, 0, 0⟩

/-- A stream that is refused is one exchange, and a line that breaks is none. -/
theorem replies_aligned_refusing :
    ∃ (banner : Bytes) (exchanges : List Exchange),
      exchanges.map Exchange.operation = [.openStream (.tail ['x'])] ∧
      refusing.content = banner ++ exchanges.flatMap Exchange.taken ∧
      exchanges.flatMap Exchange.sent = [84, 65, 73, 76, 32, 120, 10] := by
  -- The request is refused and the line with a break in it is not sent, and neither makes the
  -- connection unusable.
  obtain ⟨after, ran, usable, nothing, written⟩ : ∃ after,
      Ran greetedByRefusing [.openStream (.tail ['x']), .command ['a', '\n', 'b']] after ∧
        after.isUsable = true ∧ after.unread = [] ∧
        after.sink.taken = [84, 65, 73, 76, 32, 120, 10] := by
    refine ⟨_, .next ?_ (.next nofun (.nothing _)), rfl, rfl, rfl⟩
    rintro _ stream same opened
    cases same
    cases opened
  obtain ⟨⟨banner, exchanges, _, operations, _, taken, sent⟩, _⟩ :=
    @replies_aligned _ _ .usual refusing .accepting _ _ rfl ran usable
  refine ⟨banner, exchanges, operations, ?_, ?_⟩
  · rw [taken, nothing, List.append_nil]
  · rw [← written, sent]
    rfl

end AmigaRemote.Connection
