import AmigaRemote.Proofs.Client.Steady

/-! What goes over a connection, write by write. A client writes whole commands and the data of
uploads, and once a write has failed it writes nothing more. -/

namespace AmigaRemote

/-- Who writes over a connection. -/
inductive Writer where
  | client
  /-- The thread of a session, which stops it. -/
  | session
  /-- Anyone else who stops a session. -/
  | elsewhere
  deriving DecidableEq

/-- One write, with what was taken of it. -/
structure Write where
  writer : Writer
  bytes : Bytes
  taken : Bytes
  result : Except Fault Unit
  front : taken <+: bytes
  whole : result = .ok () → taken = bytes

/-- A write that failed, whatever was taken of it. -/
def Write.Failed (w : Write) : Prop :=
  w.result ≠ .ok ()

/-- What is written at once: a command, all the data of an upload, or a stop. -/
inductive Written (encoding : Encoding) : Writer → Bytes → Prop where
  | command {command : Command} {bytes : Bytes} (encoded : command.encode encoding = .ok bytes) :
    Written encoding .client bytes
  | upload (data : Bytes) : Written encoding .client (Chunk.encodeAll Chunk.defaultSize data)
  | stop {writer : Writer} {bytes : Bytes} (other : writer ≠ .client)
    (encoded : Command.stop.encode encoding = .ok bytes) : Written encoding writer bytes

namespace Sink

/-- What becomes of the writing end by writes, one after the other. -/
inductive Writes : Sink → List Write → Sink → Prop where
  | nothing (s : Sink) : Writes s [] s
  | write {s middle after : Sink} {w : Write} {later : List Write}
    (sent : s.send w.bytes = (w.result, middle)) (took : middle.taken = s.taken ++ w.taken)
    (rest : Writes middle later after) : Writes s (w :: later) after
  /-- Once the transport is closed all writes fail. -/
  | closed {s after : Sink} {fault : Fault} {later : List Write}
    (rest : Writes (s.refusing fault) later after) : Writes s later after

variable {s middle after : Sink} {writes later : List Write}

/-- Writes may be followed by others. -/
theorem Writes.append (first : Writes s writes middle) (second : Writes middle later after) :
    Writes s (writes ++ later) after := by
  -- By induction on the first writes, as for lists.
  induction first with
  | nothing => exact second
  | write sent took _ ih => exact .write sent took (ih second)
  | closed _ ih => exact .closed (ih second)

/-- What was taken is what was taken of each write. -/
theorem Writes.all_taken (wrote : Writes s writes after) :
    after.taken = s.taken ++ writes.flatMap Write.taken := by
  -- By induction on the writes: to close the transport adds none.
  induction wrote with
  | nothing => simp
  | write _ took _ ih => simp [ih, took]
  | closed _ ih => exact ih

/-- To transmit is to write once. -/
theorem transmit_writes (s : Sink) (writer : Writer) (bytes : Bytes) :
    ∃ w : Write, w.writer = writer ∧ w.bytes = bytes ∧ Writes s [w] (s.transmit bytes).2 ∧
      (w.Failed → (s.transmit bytes).1 ≠ .ok ()) := by
  -- What `send` took is a part of the bytes, and all of them if it succeeded.
  obtain ⟨part, front, all, whole⟩ := send_took s bytes
  refine ⟨⟨writer, bytes, part, (s.send bytes).1, front, whole⟩, rfl, rfl, ?_, ?_⟩
  · rw [transmit_sink]
    exact .write rfl all (.nothing _)
  · intro failed
    unfold transmit
    split
    · rename_i found
      exact absurd (congrArg Prod.fst found) failed
    · nofun

/-- To send a command is to write it once, unless it has no bytes. -/
theorem sendCommand_writes (s : Sink) (encoding : Encoding) (writer : Writer)
    (command : Command) :
    (∃ e, e.beforeSending = true ∧ s.sendCommand encoding command = (.error e, s)) ∨
      ∃ w : Write, w.writer = writer ∧ command.encode encoding = .ok w.bytes ∧
        Writes s [w] (s.sendCommand encoding command).2 ∧
        (w.Failed → (s.sendCommand encoding command).1 ≠ .ok ()) := by
  -- A command that cannot be encoded is refused before anything is written.
  cases encoded : command.encode encoding with
  | error e =>
    exact .inl ⟨e, Command.encode_error encoded, by simp only [sendCommand, encoded]⟩
  | ok bytes =>
    obtain ⟨w, writer, rfl, wrote, failed⟩ := transmit_writes s writer bytes
    exact .inr ⟨w, writer, rfl, by simpa only [sendCommand, encoded] using ⟨wrote, failed⟩⟩

end Sink

namespace Connection

open Step (Still)

variable {α β : Type} {c middle after : Connection} {writes later : List Write}

/-- What a client wrote. After a write that fails it writes nothing more, and has no use for the
connection. -/
structure Wrote (c after : Connection) (writes : List Write) : Prop where
  sink : c.sink.Writes writes after.sink
  settings : after.settings = c.settings
  client : ∀ w ∈ writes, w.writer = .client
  written : ∀ w ∈ writes, Written c.settings.encoding .client w.bytes
  order : writes.Pairwise fun first _ => ¬first.Failed
  spent : ∀ w ∈ writes, w.Failed → after.isUsable = false

/-- Nothing may be written as well. -/
theorem Wrote.none (sink : c.sink.Writes [] after.sink) (settings : after.settings = c.settings) :
    Wrote c after [] where
  -- The conditions on the writes hold of none at all.
  sink := sink
  settings := settings
  client := List.forall_mem_nil _
  written := List.forall_mem_nil _
  order := .nil
  spent := List.forall_mem_nil _

/-- Where the sink is left alone nothing was written. -/
theorem Wrote.nothing (sink : after.sink = c.sink) (settings : after.settings = c.settings) :
    Wrote c after [] :=
  -- The sink itself is the empty sequence of writes.
  .none (sink ▸ .nothing _) settings

/-- Over a connection that is still of use more is written. -/
theorem Wrote.trans (first : Wrote c middle writes) (usable : middle.isUsable = true)
    (second : Wrote middle after later) : Wrote c after (writes ++ later) := by
  -- A failed write would have broken the connection, which is usable between the two.
  have intact : ∀ w ∈ writes, ¬w.Failed := fun w member failed => by
    rw [first.spent w member failed] at usable
    cases usable
  -- The parts are those of both, and the order is kept since nothing before had failed.
  refine ⟨first.sink.append second.sink, second.settings.trans first.settings, ?_, ?_, ?_, ?_⟩
  · exact List.forall_mem_append.mpr ⟨first.client, second.client⟩
  · have same := second.written
    rw [first.settings] at same
    exact List.forall_mem_append.mpr ⟨first.written, same⟩
  · exact List.pairwise_append.mpr ⟨first.order, second.order, fun w member _ _ => intact w member⟩
  · exact List.forall_mem_append.mpr ⟨fun w member failed => absurd failed (intact w member),
      second.spent⟩

/-- What is done writes in order over any connection that is of use. -/
def Orderly (act : Client α) : Prop :=
  ∀ c, c.isUsable = true → ∃ writes, Wrote c (act c).2 writes

/-- What changes nothing writes nothing. -/
theorem Orderly.still {act : Client α} (still : Still act) : Orderly act :=
  -- Nothing is written, and the sink and the settings are those from before.
  fun c _ => ⟨[], .nothing (by rw [still c]) (by rw [still c])⟩

/-- A sequence of what writes in order does so too. -/
theorem Orderly.bind {x : Client α} {next : α → Client β} (truthful : Truthful id x)
    (first : Orderly x) (second : ∀ a, Orderly (next a)) : Orderly (x >>= next) := by
  intro c usable
  obtain ⟨writes, wrote⟩ := first c usable
  have agrees := truthful c usable
  rw [Step.bind_apply]
  split
  · -- After a success the connection is of use, so no write has failed.
    rename_i a middle found
    rw [found] at wrote agrees
    obtain ⟨later, wrote'⟩ := second a middle agrees
    exact ⟨_, wrote.trans agrees wrote'⟩
  · rename_i found
    rw [found] at wrote
    exact ⟨writes, wrote⟩

/-- To read writes nothing. -/
theorem receive_orderly (reading : Reading α) : Orderly (receive reading) :=
  -- Reading touches the reader alone.
  fun c _ => ⟨[], .nothing (guard_sink _ _) (receive_steady reading (.refl c)).settings⟩

/-- The guard writes nothing. -/
theorem guard_orderly (result : Except WireError α) : Orderly (guard result) :=
  -- To judge touches the health alone.
  fun c _ => ⟨[], .nothing (guard_sink _ _) (guard_steady result (.refl c)).settings⟩

/-- What is written at once by the client is written in order. -/
theorem transmit_wrote {sending : Sink → Except WireError Unit × Sink} {c : Connection}
    (once : (∃ e, sending c.sink = (.error e, c.sink)) ∨
      ∃ w : Write, w.writer = .client ∧ Written c.settings.encoding .client w.bytes ∧
        c.sink.Writes [w] (sending c.sink).2 ∧
        (w.Failed → ∃ e, (sending c.sink).1 = .error e ∧ e.beforeSending = false)) :
    ∃ writes, Wrote c (transmit sending c).2 writes := by
  -- The guard touches neither the sink nor the settings.
  have sink : (transmit sending c).2.sink = (sending c.sink).2 := guard_sink _ _
  have settings := (transmit_steady sending (.refl c)).settings
  -- Nothing was tried, or one write was, whose failure breaks the connection.
  rcases once with ⟨e, refused⟩ | ⟨w, client, written, wrote, failed⟩
  · exact ⟨[], .nothing (by rw [sink, refused]) settings⟩
  · have broken (broke : w.Failed) : (transmit sending c).2.isUsable = false := by
      obtain ⟨e, same, late⟩ := failed broke
      simp [transmit, same, guard, late, breakOff, isUsable]
    exact ⟨[w], sink ▸ wrote, settings, by simpa using client, by simpa using written,
      List.pairwise_singleton _ _, by simpa using broken⟩

/-- A command is written in order. -/
theorem send_orderly (command : Command) : Orderly (send command) := by
  intro c usable
  -- The command is sent since the connection is usable.
  rw [send_usable command usable]
  refine transmit_wrote ?_
  -- It is refused before anything is written, or it is one write.
  rcases c.sink.sendCommand_writes c.settings.encoding .client command with
    ⟨e, _, refused⟩ | ⟨w, client, encoded, wrote, failed⟩
  · exact .inl ⟨e, refused⟩
  · refine .inr ⟨w, client, .command encoded, wrote, fun broke => ?_⟩
    -- A failure of the write is no failure of the encoding, and so it is an outage.
    rcases outcome : c.sink.sendCommand c.settings.encoding command with ⟨e | _, sink⟩
    · rcases Sink.sendCommand_error outcome with ⟨refused, _⟩ | ⟨_, _, outage⟩
      · rw [encoded] at refused
        cases refused
      · exact ⟨e, rfl, WireError.beforeSending_of_isOutage outage⟩
    · exact absurd (by rw [outcome]) (failed broke)

/-- The data of an upload is written in order. -/
theorem upload_orderly (data : Bytes) :
    Orderly (transmit fun sink => sink.transmit (Chunk.encodeAll Chunk.defaultSize data)) := by
  intro c _
  refine transmit_wrote (.inr ?_)
  -- The body is one write, however many chunks it is made of.
  obtain ⟨w, client, same, wrote, failed⟩ :=
    c.sink.transmit_writes .client (Chunk.encodeAll Chunk.defaultSize data)
  refine ⟨w, client, same ▸ .upload data, wrote, fun broke => ?_⟩
  -- Where it fails, this is an outage, for which the connection is broken.
  rcases outcome : c.sink.transmit (Chunk.encodeAll Chunk.defaultSize data) with ⟨e | _, sink⟩
  · exact ⟨e, rfl, WireError.beforeSending_of_isOutage (Sink.transmit_error outcome)⟩
  · exact absurd (by rw [outcome]) (failed broke)

/-- A command is carried out in order. -/
theorem execute_orderly (command : Command) : Orderly (execute command) := by
  unfold execute
  -- A stream is refused; otherwise the command is sent, and nothing is written behind it.
  cases command.framing with
  | stream => exact guard_orderly _
  | lines => exact .bind (send_truthful _) (send_orderly _) fun _ => receive_orderly _
  | chunked => exact .bind (send_truthful _) (send_orderly _) fun _ => receive_orderly _

/-- A request is written in order. -/
theorem request_orderly (command : Command) : Orderly (request command) :=
  -- To accept the response writes nothing.
  .bind (execute_truthful _) (execute_orderly _) fun _ => .still (accept_still _)

/-- To hang up closes the transport and writes nothing. -/
theorem hangUp_wrote (c : Connection) : Wrote c (hangUp c).2 [] := by
  unfold hangUp
  -- The transport is closed once, and closing is no write.
  rw [Step.modify_apply]
  split
  · exact .nothing rfl rfl
  · exact .none (.closed (.nothing _)) rfl

/-- An upload is written in order. -/
theorem write_orderly (path : Text) (data : Bytes) : Orderly (write path data) := by
  refine .bind (send_truthful _) (send_orderly _) fun _ =>
    .bind (receive_truthful _) (receive_orderly _) fun line => ?_
  -- Only if the daemon asks for the data is it written.
  split
  · unfold refuseUpload
    split
    · exact .bind (receive_truthful _) (receive_orderly _) fun _ => .still (.throw _)
    · exact fun c _ => ⟨[], .nothing rfl rfl⟩
  · exact .bind (transmit_truthful _) (upload_orderly data) fun _ =>
      .bind (receive_truthful _) (receive_orderly _) fun _ =>
        .bind (accept_truthful _) (.still (accept_still _)) fun _ => .still (acknowledged_still _ _)

end Connection

/-- Every operation but a request for a stream writes in order. -/
theorem Operation.perform_orderly {op : Operation} (single : ∀ request, op ≠ .openStream request) :
    Connection.Orderly op.perform := by
  open Connection in
  -- Most operations carry out their command and look at the response.
  have asked (layout : op.layout = some op.sends.framing) (other : op ≠ .shutdown) :
      Orderly op.perform := by
    intro c usable
    rw [perform_execute layout other]
    exact execute_orderly _ c usable
  -- The others are the upload, the hanging up and the command that is read in chunks.
  cases op with
  | openStream request => exact absurd rfl (single request)
  | shutdown =>
    exact .bind (request_truthful _) (request_orderly _) fun _ => fun c _ => ⟨[], hangUp_wrote c⟩
  | write path data => exact write_orderly path data
  | chunkedCommand line =>
    exact .bind (send_truthful _) (send_orderly _) fun _ =>
      .bind (receive_truthful _) (receive_orderly _) fun _ => .still (accept_still _)
  | _ => exact asked rfl nofun

namespace Connection

variable {c : Connection}

/-- The last use of a connection is written in order, and nothing is written over one that is of no
use. -/
theorem release_wrote (c : Connection) :
    ∃ writes, Wrote c (release c) writes ∧ (c.isUsable = false → writes = []) := by
  unfold release
  -- A connection that is ready says goodbye, any other is dropped.
  split
  · rename_i ready
    have usable := isUsable_iff.mpr ready
    obtain ⟨writes, wrote⟩ := request_orderly .quit c usable
    have hungUp := hangUp_wrote (request .quit c).2
    -- Only closing follows the goodbye, so that its writes are all there are.
    refine ⟨writes, ⟨?_, hungUp.settings.trans wrote.settings, wrote.client, wrote.written,
      wrote.order, fun _ _ _ => ?_⟩, fun unusable => ?_⟩
    · simpa using wrote.sink.append hungUp.sink
    · simp [isUsable, hangUp_health]
    · rw [usable] at unusable
      cases unusable
  · exact ⟨[], hangUp_wrote c, fun _ => rfl⟩

end Connection
end AmigaRemote
