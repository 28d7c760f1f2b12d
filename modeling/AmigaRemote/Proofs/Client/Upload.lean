import AmigaRemote.Proofs.Client.Answered
import AmigaRemote.Proofs.Client.Writes
import AmigaRemote.Proofs.Wire.ChunkRoundTrip
import AmigaRemote.Proofs.Wire.CommandLines
import AmigaRemote.Proofs.Wire.Shortfall
import Mathlib.Algebra.Ring.Nat

/-! An upload announces the size of its data, sends the data if it is asked for it, and leaves the
connection in step exactly if its reply was read to the end. -/

namespace AmigaRemote

/-- The data of an upload as it goes out: in blocks that are neither empty nor too large and make up
the announced size, and then the end line. Behind a status line it would be read back as the data. -/
structure UploadBody (data body : Bytes) : Prop where
  blocks : ∃ pieces : List Bytes,
    body = pieces.flatMap Chunk.encode ++ Chunk.plainLine Chunk.endLine ∧
      (∀ piece ∈ pieces, 1 ≤ piece.length ∧ piece.length ≤ 4096) ∧
      (pieces.map List.length).sum = data.length ∧ pieces.flatten = data
  readsBack : ∀ encoding, ReadsBack Reader.readChunkedResponse encoding (.okBinary [] data)
    (Chunk.plainLine ['O', 'K'] ++ body ++ Chunk.plainLine Line.sentinel)

/-- Data is cut into such blocks, however long it is. -/
theorem uploadBody_encodeAll (data : Bytes) :
    UploadBody data (Chunk.encodeAll Chunk.defaultSize data) := by
  have body : Chunk.encodeAll Chunk.defaultSize data
      = (chunksOf Chunk.defaultSize (by decide) data).flatMap Chunk.encode
        ++ Chunk.plainLine Chunk.endLine := rfl
  have fits : ∀ piece ∈ chunksOf Chunk.defaultSize (by decide) data, piece.length ≤ 4096 :=
    fun piece => length_le_of_mem_chunksOf
  refine ⟨⟨_, body, fun piece member => ⟨?_, fits piece member⟩, ?_, flatten_chunksOf⟩, ?_⟩
  · exact List.length_pos_iff.mpr (ne_nil_of_mem_chunksOf member)
  · rw [← List.length_flatten, flatten_chunksOf]
  · intro encoding
    -- The status line is the same in every encoding.
    have status : encoding.encode ['O', 'K'] = .ok [79, 75] := by cases encoding <;> rfl
    have parsed : Status.parseLine ['O', 'K'] = .ok (.ok, []) := rfl
    have back := Reader.readsBack_chunks parsed (by decide) status (by decide)
      fun piece member => Nat.le_trans (fits piece member) (by decide)
    rw [flatten_chunksOf] at back
    simpa [body, Chunk.plainLine, Line.feed] using back

/-- No response is empty. -/
theorem ResponseFrame.ne_nil {encoding : Encoding} {response : Response} {frame : Bytes}
    (isFrame : ResponseFrame encoding response frame) : frame ≠ [] := by
  -- A frame begins with the status line, and a line has at least its line feed.
  obtain ⟨⟨line, isLine, _⟩, _⟩ := isFrame
  exact List.append_ne_nil_of_left_ne_nil isLine.ne_nil _

namespace Connection

open Step (Still)

variable {α : Type} {c after : Connection}

/-- What the guard stops is a failure. -/
theorem guard_stopped {result : Except WireError α} {e : ClientError}
    (stopped : guard result c = (.error e, after)) : ∃ why, result = .error why := by
  -- A success passes through the guard.
  cases result with
  | ok a => cases stopped
  | error why => exact ⟨why, rfl⟩

/-- What fails while it is received has not been taken whole. -/
theorem receive_short {reading : Reading α} {Frame : Encoding → α → Bytes → Prop} {e : ClientError}
    {a : α} {frame rest : Bytes} (short : FallsShort reading Frame)
    (failed : receive reading c = (.error e, after)) (isFrame : Frame c.reader.encoding a frame)
    (whole : c.unread = frame ++ rest) : rest.length < after.unread.length := by
  -- The guard fails only for what the reading failed with, and leaves the reader as it is.
  obtain ⟨why, found⟩ := guard_stopped failed
  have reader := guard_reader (reading c.reader).1 { c with reader := (reading c.reader).2 }
  have left : after.reader = (reading c.reader).2 := (congrArg (·.2.reader) failed).symm.trans reader
  rw [unread, left]
  exact short (Prod.ext found rfl) isFrame whole

/-- What was received stood first. -/
theorem receive_taken {reading : Reading α} {Frame : Encoding → α → Bytes → Prop} {a : α}
    (takes : Takes reading Frame) (received : receive reading c = (.ok a, after)) :
    ∃ frame, Frame c.reader.encoding a frame ∧ c.unread = frame ++ after.unread ∧
      after.reader.encoding = c.reader.encoding ∧ after.sink = c.sink ∧ after.health = c.health := by
  -- The reading succeeded as well, and took what it read.
  obtain ⟨read, same⟩ := receive_ok received
  obtain ⟨frame, isFrame, front, kept⟩ := takes read
  rw [same] at front ⊢
  exact ⟨frame, isFrame, front, kept, rfl, rfl⟩

/-- What is done without writing. -/
def Mute (act : Client α) : Prop :=
  ∀ sink, Step.Keeps (fun c : Connection => c.sink = sink) act

/-- To read writes nothing. -/
theorem receive_mute (reading : Reading α) : Mute (receive reading) :=
  -- The sink passes through the guard untouched.
  fun _ _ same => (guard_sink _ _).trans same

/-- What follows without writing leaves what was written before it. -/
theorem bind_mute {β : Type} (x : Client α) {next : α → Client β} (mute : ∀ a, Mute (next a))
    (c : Connection) : ((x >>= next) c).2.sink = (x c).2.sink := by
  -- Either the first part fails and is all there is, or the second part follows.
  rw [Step.bind_apply]
  split
  all_goals
    rename_i found
    rw [found]
  exact mute _ _ rfl

/-- What refuses an upload is an error, of which the sentinel is read, or breaks the connection. -/
theorem refuseUpload_cases (line : Text) :
    (∃ info, Status.parseLine line = .ok (.err, info) ∧
      (refuseUpload line : Client α) = do
        receive Reader.expectSentinel
        throw (.daemon (.ofInfo info))) ∨
      (∀ info, Status.parseLine line ≠ .ok (.err, info)) ∧
        (refuseUpload line : Client α) = breakOff (.unexpectedLine line) := by
  unfold refuseUpload
  -- The line is understood, or it is not; only an error line is a refusal.
  rcases Status.parseLine line with _ | ⟨_ | _, info⟩
  · exact .inr ⟨nofun, rfl⟩
  · exact .inr ⟨nofun, rfl⟩
  · exact .inl ⟨info, rfl, rfl⟩

/-- The size that is acknowledged is that in the info, or the one given if there is none. -/
theorem acknowledged_ok {info : Text} {given size : UInt64}
    (done : acknowledged given info c = (.ok size, after)) :
    (if info = [] then size = given else Decimal.uint64? info.trim = some size) ∧ after = c := by
  unfold acknowledged at done
  -- The info is empty, so that the size given stands; or it has to be a number.
  split
  · rename_i none
    rw [if_pos none] at done
    cases done
    exact ⟨rfl, rfl⟩
  · rename_i some
    rw [if_neg some] at done
    cases read : Decimal.uint64? info.trim with
    | none =>
      rw [read] at done
      cases done
    | some taken =>
      rw [read] at done
      cases done
      exact ⟨rfl, rfl⟩

/-- The beginning of an upload: its command, and the line that answers to it. -/
def announce (path : Text) (data : Bytes) : Client Text := do
  send (.write path (UInt64.ofNat data.length))
  receive Reader.readLine

/-- The rest of an upload, depending on the line that answers to its command. -/
def proceed (data : Bytes) (line : Text) : Client UInt64 :=
  if line ≠ readyLine then refuseUpload line
  else do
    transmit fun sink => sink.transmit (Chunk.encodeAll Chunk.defaultSize data)
    let response ← accept (← receive Reader.readResponse)
    acknowledged (UInt64.ofNat data.length) response.info

/-- An upload is its beginning and what follows it. -/
theorem write_eq (path : Text) (data : Bytes) :
    write path data = announce path data >>= proceed data :=
  -- The sequence is associated to the right in the definition, and to the left here.
  Step.bind_assoc (send (.write path (UInt64.ofNat data.length))) (fun _ => receive Reader.readLine)
    (proceed data)

section Announcement

variable {path line : Text} {data command first rest : Bytes}

/-- To announce an upload writes its command and nothing else, whatever becomes of it. -/
theorem announce_wrote (usable : c.isUsable = true)
    (encoded : (Command.write path (UInt64.ofNat data.length)).encode c.settings.encoding
      = .ok command) :
    ∃ w : Write, w.bytes = command ∧ c.sink.Writes [w] (announce path data c).2.sink := by
  rw [announce, exchange_sink Reader.readLine usable]
  rcases c.sink.sendCommand_writes c.settings.encoding .client
    (.write path (UInt64.ofNat data.length)) with ⟨e, early, refused⟩ | ⟨w, _, same, wrote, _⟩
  · -- A command that has bytes is not refused.
    rcases Sink.sendCommand_error refused with ⟨unencodable, _⟩ | ⟨_, _, outage⟩
    · rw [encoded] at unencodable
      cases unencodable
    · rw [WireError.beforeSending_of_isOutage outage] at early
      cases early
  · rw [encoded] at same
    exact ⟨w, (Except.ok.inj same).symm, wrote⟩

/-- The line that answers to an upload is the one that stands first. -/
theorem announce_heard (usable : c.isUsable = true)
    (heard : announce path data c = (.ok line, after)) :
    (∃ frame, LineFrame c.reader.encoding line frame ∧ c.unread = frame ++ after.unread) ∧
      after.reader.encoding = c.reader.encoding ∧ after.isUsable = true := by
  -- What was sent is not read, so that the line stands first in what came from the start.
  obtain ⟨_, sent, sends, received⟩ := Step.bind_eq_ok.mp heard
  have reader := send_reader sends
  have ready := send_truthful (.write path (UInt64.ofNat data.length)) c usable
  rw [sends] at ready
  obtain ⟨frame, isLine, front, kept, _, health⟩ := receive_taken Reader.readLine_takes received
  rw [unread, reader] at front
  rw [reader] at isLine kept
  exact ⟨⟨frame, isLine, front⟩, kept, isUsable_iff.mpr (health.trans (isUsable_iff.mp ready))⟩

/-- An upload that is not answered has taken no line. -/
theorem announce_short {e : ClientError} (failed : announce path data c = (.error e, after))
    (isLine : LineFrame c.reader.encoding line first) (whole : c.unread = first ++ rest) :
    rest.length < after.unread.length := by
  rcases Step.bind_eq_error.mp failed with failed | ⟨_, sent, sends, failed⟩
  · -- If the command was not sent, nothing was read.
    have left : after.unread = c.unread := congrArg Reader.unread (send_reader failed)
    have some := List.length_pos_iff.mpr isLine.ne_nil
    rw [left, whole, List.length_append]
    omega
  · have reader := send_reader sends
    have same : sent.unread = c.unread := congrArg Reader.unread reader
    exact receive_short Reader.readLine_fallsShort failed (reader ▸ isLine) (same.trans whole)

/-- An upload that is not answered breaks the connection. -/
theorem announce_broken {e : ClientError}
    (encoded : (Command.write path (UInt64.ofNat data.length)).encode c.settings.encoding
      = .ok command)
    (failed : announce path data c = (.error e, after)) : after.isUsable = false := by
  by_contra still
  rw [Bool.not_eq_false] at still
  -- What is left usable was either not begun or gone through to its end.
  rcases exchange_done Reader.readLine_takes Reader.readLine_failsOnWire failed still with
    ⟨_, refused, _⟩ | ⟨_, _, _, _, answered, _⟩
  · cases encoded.symm.trans refused
  · cases answered

end Announcement

/-- What ends the reply to an upload behind its first line: a response if the data was asked for, and
the sentinel if it was refused. -/
inductive Concludes (encoding : Encoding) : Text → Bytes → Prop where
  | response {response : Response} {rest : Bytes} (reply : ResponseFrame encoding response rest) :
    Concludes encoding readyLine rest
  | refusal {line info : Text} {rest : Bytes} (isError : Status.parseLine line = .ok (.err, info))
    (sentinel : LineFrame encoding Line.sentinel rest) : Concludes encoding line rest

section Conclusion

variable {line : Text} {data rest : Bytes} {outcome : Except ClientError UInt64}

/-- Data that was asked for is written at once, and nothing else is. -/
theorem proceed_ready_wrote (data : Bytes) (c : Connection) :
    ∃ w : Write, w.bytes = Chunk.encodeAll Chunk.defaultSize data ∧
      c.sink.Writes [w] (proceed data readyLine c).2.sink := by
  obtain ⟨w, _, same, wrote, _⟩ :=
    c.sink.transmit_writes .client (Chunk.encodeAll Chunk.defaultSize data)
  have sink : (proceed data readyLine c).2.sink
      = (c.sink.transmit (Chunk.encodeAll Chunk.defaultSize data)).2 := by
    rw [proceed, if_neg (not_not_intro rfl), bind_mute]
    · exact guard_sink _ _
    · -- The response is read and judged, and nothing is written after the data.
      exact fun _ sink => (receive_mute _ sink).bind fun response =>
        ((accept_still response).bind fun _ => acknowledged_still _ _).keeps
  exact ⟨w, same, sink ▸ wrote⟩

/-- Data that was not asked for is not written. -/
theorem proceed_other_sink (other : line ≠ readyLine) : (proceed data line c).2.sink = c.sink := by
  rw [proceed, if_pos other]
  -- An answer other than the go-ahead is refused, and a refusal reads at most the sentinel.
  rcases refuseUpload_cases (α := UInt64) line with ⟨info, _, same⟩ | ⟨_, same⟩
  · rw [same]
    exact ((receive_mute Reader.expectSentinel c.sink).bind fun _ => (Still.throw _).keeps) rfl
  · rw [same]
    rfl

/-- An upload succeeds only if the data was asked for and the response says so. The size is that in
its info, or that of the data if there is none. -/
theorem proceed_ok {size : UInt64} (done : proceed data line c = (.ok size, after)) :
    line = readyLine ∧ ∃ info lines rest,
      ResponseFrame c.reader.encoding ⟨.ok, info, .lines lines⟩ rest ∧
        c.unread = rest ++ after.unread ∧
        if info = [] then size = UInt64.ofNat data.length
        else Decimal.uint64? info.trim = some size := by
  unfold proceed at done
  by_cases ready : line = readyLine
  · rw [if_neg (not_not_intro ready)] at done
    obtain ⟨_, sent, sends, answering⟩ := Step.bind_eq_ok.mp done
    obtain ⟨response, answered, received, judging⟩ := Step.bind_eq_ok.mp answering
    obtain ⟨accepted, judged, accepts, telling⟩ := Step.bind_eq_ok.mp judging
    -- What is made of the response changes nothing.
    obtain ⟨isOk, rfl, rfl⟩ := accept_ok accepts
    obtain ⟨told, rfl⟩ := acknowledged_ok telling
    have reader := transmit_reader (·.transmit (Chunk.encodeAll Chunk.defaultSize data)) c
    rw [sends] at reader
    obtain ⟨frame, isFrame, front, _⟩ := receive_taken Reader.readResponse_takes received
    rw [reader] at isFrame
    rw [unread, reader] at front
    cases isFrame with
    | lines head payload =>
      cases isOk
      exact ⟨ready, _, _, _, .lines head payload, front, told⟩
  · rw [if_pos ready] at done
    -- What is not the ready line is an error or breaks the connection.
    rcases refuseUpload_cases (α := UInt64) line with ⟨info, _, same⟩ | ⟨_, same⟩
    · rw [same] at done
      obtain ⟨_, _, _, thrown⟩ := Step.bind_eq_ok.mp done
      cases thrown
    · rw [same] at done
      cases done

/-- Over a usable connection an upload whose first line was read stays usable exactly if what
concludes its reply was read to the end. -/
theorem proceed_usable_iff (usable : c.isUsable = true)
    (done : proceed data line c = (outcome, after)) :
    after.isUsable = true ↔
      ∃ rest, Concludes c.reader.encoding line rest ∧ c.unread = rest ++ after.unread := by
  constructor
  · intro ready
    unfold proceed at done
    by_cases asked : line = readyLine
    · rw [if_neg (not_not_intro asked)] at done
      obtain ⟨response, frame, isFrame, moved⟩ := upload_done done ready
      exact ⟨frame, asked ▸ .response isFrame, moved.read⟩
    · rw [if_pos asked] at done
      rcases refuseUpload_cases (α := UInt64) line with ⟨info, isError, same⟩ | ⟨_, same⟩
      · rw [same] at done
        obtain ⟨last, isLast, moved⟩ := sentinel_done done ready
        exact ⟨last, .refusal isError isLast, moved.read⟩
      · rw [same] at done
        cases done
        cases ready
  · rintro ⟨rest, concludes, whole⟩
    unfold proceed at done
    generalize same : c.reader.encoding = encoding at concludes
    cases concludes with
    | response reply =>
      subst same
      rw [if_neg (not_not_intro rfl)] at done
      have reader := transmit_reader (·.transmit (Chunk.encodeAll Chunk.defaultSize data)) c
      have agrees := transmit_truthful (·.transmit (Chunk.encodeAll Chunk.defaultSize data)) c usable
      rcases sends : transmit (·.transmit (Chunk.encodeAll Chunk.defaultSize data)) c with
        ⟨e | _, sent⟩
      all_goals
        rw [sends] at reader agrees
        have unread : sent.unread = c.unread := congrArg Reader.unread reader
      · -- Without the data on its way nothing was read behind the ready line.
        rw [Step.bind_error sends] at done
        cases done
        rw [unread] at whole
        exact absurd (List.self_eq_append_left.mp whole) reply.ne_nil
      · rw [Step.bind_ok sends] at done
        have agrees' := receive_truthful Reader.readResponse sent agrees
        rcases received : receive Reader.readResponse sent with ⟨e | response, answered⟩
        all_goals rw [received] at agrees'
        · rw [Step.bind_error received] at done
          cases done
          exact absurd (receive_short Reader.readResponse_fallsShort received (reader ▸ reply)
            (unread.trans whole)) (Nat.lt_irrefl _)
        · rw [Step.bind_ok received] at done
          have still := ((accept_still response).bind fun accepted =>
            acknowledged_still (UInt64.ofNat data.length) accepted.info) answered
          rw [done] at still
          obtain rfl : after = answered := still
          exact agrees'
    | refusal isError sentinel =>
      subst same
      have other : line ≠ readyLine := by
        rintro rfl
        cases isError
      rw [if_pos other] at done
      rcases refuseUpload_cases (α := UInt64) line with ⟨info, _, same⟩ | ⟨none, _⟩
      · rw [same] at done
        have agrees := receive_truthful Reader.expectSentinel c usable
        rcases received : receive Reader.expectSentinel c with ⟨e | _, answered⟩
        all_goals rw [received] at agrees
        · rw [Step.bind_error received] at done
          cases done
          exact absurd (receive_short (a := ()) Reader.expectSentinel_fallsShort received sentinel whole)
            (Nat.lt_irrefl _)
        · rw [Step.bind_ok received] at done
          cases done
          exact agrees
      · exact absurd isError (none _)

end Conclusion

/-- The reply to an upload is a line and what concludes it. -/
theorem answered_write_iff {encoding : Encoding} {path : Text} {data frame : Bytes} :
    (∃ upload, Answered encoding (.write path data) upload frame) ↔
      ∃ line first rest, LineFrame encoding line first ∧ Concludes encoding line rest ∧
        frame = first ++ rest := by
  -- An upload is answered by a line with a response behind it, or by a refusal alone.
  constructor
  · rintro ⟨upload, answered⟩
    cases answered with
    | single layout => cases layout
    | uploaded ready reply => exact ⟨_, _, _, ready, .response reply, rfl⟩
    | uploadRefused refusal =>
      obtain ⟨⟨line, isLine, isError⟩, sentinel⟩ := refusal
      exact ⟨line, _, _, isLine, .refusal isError sentinel, rfl⟩
  · rintro ⟨line, first, rest, isLine, concludes, rfl⟩
    cases concludes with
    | response reply => exact ⟨_, .uploaded isLine reply⟩
    | refusal isError sentinel => exact ⟨_, .uploadRefused ⟨⟨line, isLine, isError⟩, sentinel⟩⟩

/-- An upload leaves a usable connection so exactly if its whole reply was read. -/
theorem write_usable_iff {path : Text} {data command : Bytes} (usable : c.isUsable = true)
    (encoded : (Command.write path (UInt64.ofNat data.length)).encode c.settings.encoding
      = .ok command) :
    (write path data c).2.isUsable = true ↔
      ∃ upload frame, Answered c.reader.encoding (.write path data) upload frame ∧
        c.unread = frame ++ (write path data c).2.unread := by
  rw [exists_comm]
  simp only [exists_and_right, answered_write_iff]
  rw [write_eq]
  rcases heard : announce path data c with ⟨e | line, between⟩
  · -- Without a line there is no reply, and the connection is broken.
    rw [Step.bind_error heard]
    have agrees := announce_broken encoded heard
    constructor
    · intro ready
      cases agrees.symm.trans ready
    · rintro ⟨_, ⟨_, first, rest, isLine, _, rfl⟩, whole⟩
      have short := announce_short heard isLine (whole.trans (List.append_assoc ..))
      rw [List.length_append] at short
      exact absurd short (Nat.not_lt.mpr (Nat.le_add_left _ _))
  · rw [Step.bind_ok heard]
    obtain ⟨⟨first, isLine, front⟩, kept, ready⟩ := announce_heard usable heard
    rcases concluded : proceed data line between with ⟨outcome, after⟩
    rw [proceed_usable_iff ready concluded, kept]
    constructor
    · rintro ⟨rest, concludes, behind⟩
      refine ⟨_, ⟨line, first, rest, isLine, concludes, rfl⟩, ?_⟩
      rw [front, behind, List.append_assoc]
    · rintro ⟨_, ⟨line', first', rest, isLine', concludes, rfl⟩, whole⟩
      -- The line that was heard is the one the reply begins with.
      rw [front, List.append_assoc] at whole
      obtain ⟨rfl, _, behind⟩ := LineFrame.unambiguous isLine isLine' whole
      exact ⟨rest, concludes, behind⟩

/-- The command of an upload is one line with the path and the size. -/
theorem encode_write {encoding : Encoding} {path : Text} {size : UInt64} {command : Bytes}
    (encoded : (Command.write path size).encode encoding = .ok command) :
    ∃ raw, encoding.encode (Command.phrase "WRITE".toList [path, Decimal.ofNat size.toNat]) = .ok raw ∧
      command = raw ++ [Line.feed] := by
  -- The command is a single line, so that the list of its lines has no tail.
  obtain ⟨_, lines, rfl⟩ := Command.encode_eq_ok.mp encoded
  obtain ⟨line, _, isLine, none, rfl⟩ := Except.mapM_cons_eq_ok.mp lines
  cases none
  obtain ⟨raw, same, rfl⟩ := Response.encodeLine_eq_ok.mp (Command.encodeLine_eq_ok.mp isLine).2
  exact ⟨raw, same, by simp⟩

/-- An upload over a usable connection first writes exactly its command, with the size of the data,
and reads a line. Only if that line asks for the data is it written, in a body of the announced size,
and nothing else is. It succeeds only behind that line and a response without an error, with the size
in its info or else that of the data. The connection stays usable exactly if the error in place of
the line, or the response, was read to the end. -/
theorem write_framed {path : Text} {data command : Bytes} {outcome : Except ClientError UInt64}
    (usable : c.isUsable = true) (fits : data.length < UInt64.size)
    (encoded : (Command.write path (UInt64.ofNat data.length)).encode c.settings.encoding
      = .ok command)
    (done : write path data c = (outcome, after)) :
    (∃ raw, c.settings.encoding.encode
        (Command.phrase "WRITE".toList [path, Decimal.ofNat data.length]) = .ok raw ∧
      command = raw ++ [Line.feed]) ∧
    (∃ w : Write, w.bytes = command ∧ c.sink.Writes [w] (announce path data c).2.sink) ∧
    (∀ e between, announce path data c = (.error e, between) →
      outcome = .error e ∧ after = between) ∧
    (∀ line between, announce path data c = (.ok line, between) →
      (∃ first, LineFrame c.reader.encoding line first ∧ c.unread = first ++ between.unread) ∧
      (line = readyLine → ∃ w : Write, UploadBody data w.bytes ∧ between.sink.Writes [w] after.sink) ∧
      (line ≠ readyLine → after.sink = between.sink)) ∧
    (∀ size, outcome = .ok size → ∃ info lines first rest,
      LineFrame c.reader.encoding readyLine first ∧
      ResponseFrame c.reader.encoding ⟨.ok, info, .lines lines⟩ rest ∧
      c.unread = first ++ rest ++ after.unread ∧
      if info = [] then size.toNat = data.length else Decimal.uint64? info.trim = some size) ∧
    (after.isUsable = true ↔ ∃ upload frame,
      Answered c.reader.encoding (.write path data) upload frame ∧
        c.unread = frame ++ after.unread) := by
  -- The size that is announced is not cut, since the data fits in 64 bits.
  have whole : (UInt64.ofNat data.length).toNat = data.length := UInt64.toNat_ofNat_of_lt' fits
  have status := write_usable_iff usable encoded
  have line := encode_write encoded
  rw [whole] at line
  rw [done] at status
  refine ⟨line, announce_wrote usable encoded, ?_, ?_, ?_, status⟩
  all_goals rw [write_eq] at done
  · -- Without a line nothing follows the command.
    intro e between failed
    rw [Step.bind_error failed] at done
    cases done
    exact ⟨rfl, rfl⟩
  · -- The line that was heard is the go-ahead or not.
    intro line between heard
    rw [Step.bind_ok heard] at done
    have same : after.sink = (proceed data line between).2.sink := by rw [done]
    refine ⟨(announce_heard usable heard).1, ?_, fun other => same.trans (proceed_other_sink other)⟩
    rintro rfl
    obtain ⟨w, isBody, wrote⟩ := proceed_ready_wrote data between
    exact ⟨w, isBody ▸ uploadBody_encodeAll data, same ▸ wrote⟩
  · -- Success needs the go-ahead and a response, in this order.
    rintro size rfl
    obtain ⟨line, between, heard, concluded⟩ := Step.bind_eq_ok.mp done
    obtain ⟨⟨first, isLine, front⟩, kept, _⟩ := announce_heard usable heard
    obtain ⟨rfl, info, lines, rest, isFrame, behind, told⟩ := proceed_ok concluded
    rw [kept] at isFrame
    refine ⟨info, lines, first, rest, isLine, isFrame, ?_, ?_⟩
    · rw [front, behind, List.append_assoc]
    · split
      · rename_i none
        rw [if_pos none] at told
        rw [told, whole]
      · rename_i some
        rwa [if_neg some] at told

/-- A connection to a daemon that asks for the data of an upload and acknowledges it. -/
def awaitingUpload : Connection where
  reader := ⟨[82, 69, 65], ⟨[.bytes [68, 89, 10, 79, 75] (by decide),
    .bytes [32, 51, 10, 46, 10] (by decide)], .silent⟩, .latin1⟩
  sink := .accepting
  settings := .usual
  health := .ready
  waitLimit? := none
  banner := "AMIGACTL 1.0.0".toList
  version := ⟨1, 0, 0⟩

/-- Three bytes are announced as three, asked for and acknowledged, and the connection stays usable. -/
theorem write_framed_awaiting :
    ∃ after, write ['x'] [1, 2, 3] awaitingUpload = (.ok 3, after) ∧ after.isUsable = true ∧
      (∃ info lines first rest, LineFrame .latin1 readyLine first ∧
        ResponseFrame .latin1 ⟨.ok, info, .lines lines⟩ rest ∧
        awaitingUpload.unread = first ++ rest ++ after.unread ∧
        if info = [] then (3 : UInt64).toNat = 3 else Decimal.uint64? info.trim = some 3) := by
  obtain ⟨after, done, usable⟩ : ∃ after,
      write ['x'] [1, 2, 3] awaitingUpload = (.ok 3, after) ∧ after.isUsable = true := by
    -- The data is one chunk, and the sentinel is the first line of the payload.
    unfold write Reader.readResponse Reader.readLines Chunk.encodeAll
    rw [Reader.readLinesAfter_eq, dif_pos (by decide),
      chunksOf_of_length_le (by decide) (by decide)]
    refine ⟨_, Prod.ext ?_ rfl, ?_⟩
    · rfl
    · rfl
  have framed := @write_framed _ after ['x'] [1, 2, 3]
    [87, 82, 73, 84, 69, 32, 120, 32, 51, 10] _ rfl (by decide) rfl done
  exact ⟨after, done, usable, framed.2.2.2.2.1 3 rfl⟩

end Connection
end AmigaRemote
