import AmigaRemote.Proofs.Client.Health
import AmigaRemote.Proofs.Step
import AmigaRemote.Proofs.Wire.Sending

/-! One exchange over a connection that stays usable: the bytes of one command go out, and exactly
one frame comes in. -/

namespace AmigaRemote.Connection

open Step (Still)

variable {α : Type} {c after : Connection}

/-- A connection after some bytes were sent and others taken, with nothing else changed that an
exchange depends on. -/
structure Moved (c after : Connection) (sent taken : Bytes) : Prop where
  written : after.sink.taken = c.sink.taken ++ sent
  read : c.unread = taken ++ after.unread
  settings : after.settings = c.settings
  encoding : after.reader.encoding = c.reader.encoding

/-- Where nothing was done nothing was moved. -/
theorem Moved.refl (c : Connection) : Moved c c [] [] :=
  -- No bytes are taken and none are read.
  ⟨by simp, by simp, rfl, rfl⟩

/-- What moved in two steps moved one after the other. -/
theorem Moved.trans {between : Connection} {sent sent' taken taken' : Bytes}
    (first : Moved c between sent taken) (second : Moved between after sent' taken') :
    Moved c after (sent ++ sent') (taken ++ taken') := by
  -- Both directions are in order, and the rest was kept twice.
  refine ⟨?_, ?_, second.settings.trans first.settings, second.encoding.trans first.encoding⟩
  · rw [second.written, first.written, List.append_assoc]
  · rw [first.read, second.read, List.append_assoc]

/-- The guard lets a usable connection pass as it was, and then all that can have failed is what was
not begun. -/
theorem guard_done {result : Except WireError α} {outcome : Except ClientError α}
    (done : guard result c = (outcome, after)) (usable : after.isUsable = true) :
    after = c ∧ ((∃ a, result = .ok a ∧ outcome = .ok a) ∨
      ∃ e, result = .error e ∧ e.beforeSending = true ∧ outcome = .error (.wire e)) := by
  cases result with
  | ok a =>
    cases done
    exact ⟨rfl, .inl ⟨a, rfl, rfl⟩⟩
  | error e =>
    by_cases early : e.beforeSending = true
    · simp only [guard, early, if_true] at done
      cases done
      exact ⟨rfl, .inr ⟨e, rfl, early, rfl⟩⟩
    · -- Otherwise the connection would be broken.
      simp only [guard, early] at done
      cases done
      simp [isUsable] at usable

/-- A connection that is of no use. -/
def Spent (c : Connection) : Prop :=
  c.isUsable = false

/-- The guard makes no connection usable. -/
theorem guard_spent (result : Except WireError α) : Step.Keeps Spent (guard result) := by
  intro c spent
  cases result with
  | ok a => exact spent
  | error e =>
    unfold guard
    dsimp only
    -- What is refused changes nothing, and what is fatal breaks the connection.
    split
    · exact spent
    · rfl

/-- To read makes no connection usable. -/
theorem receive_spent (reading : Reading α) : Step.Keeps Spent (receive reading) :=
  -- The guard stands behind every reading, and it only ever breaks connections.
  fun c spent => @guard_spent _ (reading c.reader).1 { c with reader := _ } spent

/-- To write makes no connection usable. -/
theorem transmit_spent (sending : Sink → Except WireError Unit × Sink) :
    Step.Keeps Spent (transmit sending) :=
  -- As above, behind every writing.
  fun c spent => @guard_spent _ (sending c.sink).1 { c with sink := _ } spent

/-- A connection that is usable after a sequence was so after its beginning. -/
theorem usable_before {β : Type} {x : Client α} {next : α → Client β} {a : α}
    {between : Connection} {outcome : Except ClientError β}
    (spent : ∀ a, Step.Keeps Spent (next a)) (first : x c = (.ok a, between))
    (done : (x >>= next) c = (outcome, after)) (usable : after.isUsable = true) :
    between.isUsable = true ∧ next a between = (outcome, after) := by
  have rest : next a between = (outcome, after) := by
    rw [Step.bind_apply, first] at done
    exact done
  refine ⟨?_, rest⟩
  -- Had the connection been of no use in between, it would be of none now.
  by_cases ready : between.isUsable = true
  · exact ready
  · have useless := @spent a between (by simpa [Spent] using ready)
    rw [rest] at useless
    rw [useless] at usable
    cases usable

/-- What was received over a connection that stays usable is one frame. -/
theorem receive_done {reading : Reading α} {Frame : Encoding → α → Bytes → Prop}
    {outcome : Except ClientError α} (takes : Takes reading Frame) (fails : FailsOnWire reading)
    (done : receive reading c = (outcome, after)) (usable : after.isUsable = true) :
    ∃ a frame, outcome = .ok a ∧ Frame c.reader.encoding a frame ∧ Moved c after [] frame := by
  obtain ⟨same, ⟨a, found, success⟩ | ⟨e, failed, early, _⟩⟩ := guard_done done usable
  · subst same
    obtain ⟨frame, isFrame, front, kept⟩ := takes (Prod.ext found rfl)
    exact ⟨a, frame, success, isFrame, by simp, front, rfl, kept⟩
  · -- What fails while reading is never refused for an argument.
    rw [fails (Prod.ext failed rfl)] at early
    cases early

/-- What was written over a connection that stays usable was written whole. -/
theorem transmit_done {bytes : Bytes} {outcome : Except ClientError Unit}
    (done : transmit (fun sink => sink.transmit bytes) c = (outcome, after))
    (usable : after.isUsable = true) : outcome = .ok () ∧ Moved c after bytes [] := by
  -- Usable afterwards, the connection was written to whole, or was refused before anything was
  -- sent. That has no place in writing bytes.
  obtain ⟨same, ⟨_, sent, success⟩ | ⟨e, failed, early, _⟩⟩ := guard_done done usable
  · subst same
    exact ⟨success, Sink.transmit_ok (Prod.ext sent rfl), rfl, rfl, rfl⟩
  · rw [WireError.beforeSending_of_isOutage (Sink.transmit_error (Prod.ext failed rfl))] at early
    cases early

/-- A command over a connection that stays usable was sent whole, or has no bytes and was not
begun. -/
theorem send_done {command : Command} {outcome : Except ClientError Unit}
    (done : send command c = (outcome, after)) (usable : after.isUsable = true) :
    (∃ e, command.encode c.settings.encoding = .error e ∧ e.beforeSending = true ∧
        outcome = .error (.wire e) ∧ after = c) ∨
      ∃ bytes, command.encode c.settings.encoding = .ok bytes ∧ outcome = .ok () ∧
        Moved c after bytes [] := by
  by_cases ready : c.isUsable = true
  · rw [send_usable command ready] at done
    -- The sink took the command, or the command has no bytes.
    rcases sent : c.sink.sendCommand c.settings.encoding command with ⟨result, sink⟩
    have done : guard result { c with sink } = (outcome, after) := by
      rw [← done, transmit, sent]
    obtain ⟨same, ⟨_, rfl, success⟩ | ⟨e, rfl, early, failure⟩⟩ := guard_done done usable
    · obtain ⟨bytes, encoded, all⟩ := Sink.sendCommand_ok sent
      subst same
      exact .inr ⟨bytes, encoded, success, all, rfl, rfl, rfl⟩
    · rcases Sink.sendCommand_error sent with ⟨refused, _, rfl⟩ | ⟨_, _, late⟩
      · exact .inl ⟨e, refused, early, failure, same⟩
      · rw [WireError.beforeSending_of_isOutage late] at early
        cases early
  · -- Nothing happens over a connection that is of no use, and it stays so.
    rw [send_inert command c (by simpa using ready)] at done
    cases done
    exact absurd usable ready

/-- An exchange over a connection that stays usable takes one frame for the bytes of its command,
or has no bytes to send and does nothing. -/
theorem exchange_done {command : Command} {reading : Reading α}
    {Frame : Encoding → α → Bytes → Prop} {outcome : Except ClientError α}
    (takes : Takes reading Frame) (fails : FailsOnWire reading)
    (done : (do send command; receive reading : Client α) c = (outcome, after))
    (usable : after.isUsable = true) :
    (∃ e, command.encode c.settings.encoding = .error e ∧ e.beforeSending = true ∧
        outcome = .error (.wire e) ∧ after = c) ∨
      ∃ a bytes frame, command.encode c.settings.encoding = .ok bytes ∧ outcome = .ok a ∧
        Frame c.reader.encoding a frame ∧ Moved c after bytes frame := by
  -- The command is sent first, and only then is anything read.
  rcases found : send command c with ⟨_ | _, between⟩
  · rw [Step.bind_apply, found] at done
    cases done
    rcases send_done found usable with ⟨e, refused, early, failure, same⟩ | ⟨_, _, success, _⟩
    · cases failure
      exact .inl ⟨e, refused, early, rfl, same⟩
    · cases success
  · obtain ⟨ready, done⟩ := usable_before (fun _ => receive_spent reading) found done usable
    obtain ⟨a, frame, success, isFrame, taken⟩ := receive_done takes fails done usable
    rcases send_done found ready with ⟨_, _, _, failure, _⟩ | ⟨bytes, encoded, _, sent⟩
    · cases failure
    · rw [sent.encoding] at isFrame
      exact .inr ⟨a, bytes, frame, encoded, success, isFrame, by simpa using sent.trans taken⟩

/-- What follows the first part of a reply over a connection that stays usable begins behind that
part, unless the command has no bytes to send and nothing is done. -/
theorem opening_done {β : Type} {command : Command} {reading : Reading α}
    {Frame : Encoding → α → Bytes → Prop} {next : α → Client β} {outcome : Except ClientError β}
    (takes : Takes reading Frame) (fails : FailsOnWire reading)
    (spent : ∀ a, Step.Keeps Spent (next a))
    (done : (do send command; let a ← receive reading; next a : Client β) c = (outcome, after))
    (usable : after.isUsable = true) :
    (∃ e, command.encode c.settings.encoding = .error e ∧ after = c) ∨
      ∃ a bytes frame between, command.encode c.settings.encoding = .ok bytes ∧
        Frame c.reader.encoding a frame ∧ Moved c between bytes frame ∧
        next a between = (outcome, after) := by
  rw [Step.bind_assoc] at done
  rcases found : (do send command; receive reading : Client α) c with ⟨_ | a, between⟩
  · -- Without the first part nothing follows, so the connection is as it was left.
    rw [Step.bind_apply, found] at done
    cases done
    rcases exchange_done takes fails found usable with
      ⟨e, refused, _, _, same⟩ | ⟨_, _, _, _, success, _⟩
    · exact .inl ⟨e, refused, same⟩
    · cases success
  · obtain ⟨ready, done⟩ := usable_before spent found done usable
    rcases exchange_done takes fails found ready with
      ⟨_, _, _, failure, _⟩ | ⟨_, bytes, frame, encoded, success, isFrame, moved⟩
    · cases failure
    · cases success
      exact .inr ⟨a, bytes, frame, between, encoded, isFrame, moved, done⟩

/-- The guard does not write. -/
theorem guard_sink (result : Except WireError α) (c : Connection) :
    (guard result c).2.sink = c.sink := by
  -- Only the health of a connection is the guard's to change.
  cases result with
  | ok a => rfl
  | error e =>
    unfold guard
    dsimp only
    split <;> rfl

/-- The guard does not read. -/
theorem guard_reader (result : Except WireError α) (c : Connection) :
    (guard result c).2.reader = c.reader := by
  -- As above, for the other end of the connection.
  cases result with
  | ok a => rfl
  | error e =>
    unfold guard
    dsimp only
    split <;> rfl

/-- To write reads nothing. -/
theorem transmit_reader (sending : Sink → Except WireError Unit × Sink) (c : Connection) :
    (transmit sending c).2.reader = c.reader :=
  -- What is written changes the sink, and behind it only the guard looks on.
  guard_reader _ _

/-- To send reads nothing, whether anything is sent or not. -/
theorem send_reader {command : Command} {result : Except ClientError Unit}
    (sent : send command c = (result, after)) : after.reader = c.reader := by
  -- Sent or not, the command touches only the sink and the health.
  have kept : (send command c).2.reader = c.reader := by
    by_cases usable : c.isUsable = true
    · rw [send_usable command usable]
      exact transmit_reader _ _
    · rw [send_inert command c (by simpa using usable)]
  rwa [sent] at kept

/-- What is read is received, and nothing else has changed. -/
theorem receive_of_ok {reading : Reading α} {a : α} {behind : Reader}
    (read : reading c.reader = (.ok a, behind)) :
    receive reading c = (.ok a, { c with reader := behind }) := by
  -- The guard lets a success pass as it is.
  simp only [receive, read, guard]
  rfl

/-- An exchange writes its command and nothing else, whatever becomes of it. -/
theorem exchange_sink {command : Command} (reading : Reading α) (usable : c.isUsable = true) :
    ((do send command; receive reading : Client α) c).2.sink
      = (c.sink.sendCommand c.settings.encoding command).2 := by
  have sent : (send command c).2.sink = (c.sink.sendCommand c.settings.encoding command).2 := by
    rw [send_usable command usable]
    exact guard_sink _ _
  -- Whether the command was sent or not, what follows only reads.
  rw [Step.bind_apply]
  split
  all_goals
    rename_i found
    rw [found] at sent
  · exact (guard_sink _ _).trans sent
  · exact sent

/-- To judge a reply changes nothing. -/
theorem accept_still (response : Response) : Still (accept response) := by
  -- A response is passed on or its error is thrown, and the connection is not asked.
  unfold accept
  split
  · exact .pure _
  · exact .throw _

/-- Only a response without an error is accepted, and it is left as it is. -/
theorem accept_ok {response accepted : Response}
    (done : accept response c = (.ok accepted, after)) :
    response.status = .ok ∧ accepted = response ∧ after = c := by
  -- An error would have been thrown, so the status is a success.
  unfold accept Response.result Response.error? at done
  rcases response with ⟨_ | _, info, payload⟩
  · cases done
    exact ⟨rfl, rfl, rfl⟩
  · cases done

/-- To understand a reply changes nothing. -/
theorem understand_still (result : Except ReplyFault α) : Still (understand result) := by
  -- What is understood is returned, and what is not is thrown.
  cases result with
  | ok a => exact .pure a
  | error fault => exact .throw _

/-- To look for a return code changes nothing. -/
theorem requireReturnCode_still (info : Text) : Still (requireReturnCode info) := by
  -- The return code is there or it is missing.
  unfold requireReturnCode
  split
  · exact .pure _
  · exact .throw _

/-- To understand an acknowledgement changes nothing. -/
theorem acknowledged_still (size : UInt64) (info : Text) : Still (acknowledged size info) := by
  -- Nothing, a number or something else may be said, and only the last is thrown.
  unfold acknowledged
  split
  · exact .pure _
  · split
    · exact .pure _
    · exact .throw _

end AmigaRemote.Connection
