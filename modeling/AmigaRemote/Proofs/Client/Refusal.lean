import AmigaRemote.Proofs.Client.ErrorLine
import AmigaRemote.Proofs.Client.Upload

/-! What may follow an error line. In place of a stream or of the go-ahead for an upload it is
followed by the sentinel and nothing else. In place of data any lines are read up to a sentinel, as
if they belonged to the error. -/

namespace AmigaRemote

/-- What becomes of a refusal whose error line was read, where only the sentinel may follow it. The
line is followed by what the reader brings. -/
structure Connection.EndsStrictly {α : Type} (c : Connection) (info : Text) (behind : Reader)
    (outcome : Except ClientError α × Connection) : Prop where
  /-- The sentinel makes it an error of the daemon, and nothing more is taken. -/
  sentinel : ∀ after, Reader.readLine behind = (.ok Line.sentinel, after) →
    outcome = (.error (.daemon (.ofInfo info)), { c with reader := after })
  /-- Any other line breaks the connection. -/
  other : ∀ line after, Reader.readLine behind = (.ok line, after) → line ≠ Line.sentinel →
    outcome = (.error (.wire (.unexpectedLine line)),
      { c with reader := after, health := .broken })
  /-- So does a line that cannot be read. -/
  missing : ∀ e after, Reader.readLine behind = (.error e, after) →
    outcome = (.error (.wire e), { c with reader := after, health := .broken })

/-- What becomes of a refusal whose error line was read, where lines may follow it. -/
structure Reader.EndsLaxly (info : Text) (behind : Reader)
    (outcome : Except WireError Response × Reader) : Prop where
  /-- The sentinel makes it a response with the error, and nothing more is taken. -/
  sentinel : ∀ after, readLine behind = (.ok Line.sentinel, after) →
    outcome = (.ok ⟨.err, info, .lines []⟩, after)
  /-- Any other line is the first of those that are taken up to some sentinel. -/
  other : ∀ line after, readLine behind = (.ok line, after) → line ≠ Line.sentinel →
    ∀ response last, outcome = (.ok response, last) →
      ∃ lines frame, response = ⟨.err, info, .lines (Line.unstuff line :: lines)⟩ ∧
        PayloadFrame behind.encoding lines frame ∧ after.unread = frame ++ last.unread
  /-- A line that cannot be read is missed. -/
  missing : ∀ e after, readLine behind = (.error e, after) → outcome = (.error e, after)
  /-- No line is unexpected. Only an outage keeps a sentinel from being found. -/
  outage : ∀ e, outcome.1 = .error e → e.isOutage = true
  /-- However many lines come before a sentinel, they are all taken with it. -/
  lines : ∀ {lines : List Text} {layout : Layout} {rest : Bytes},
    PayloadLayout behind.encoding lines layout → layout.Short →
      behind.coming = layout.bytes ++ rest →
        ∃ last, outcome = (.ok ⟨.err, info, .lines lines⟩, last) ∧ last.coming = rest

/-- What becomes of an exchange over a connection on all paths, once the error line was read that
stands first. -/
structure Connection.EndsRefusal (c : Connection) (info : Text) (behind : Reader) : Prop where
  openStream : ∀ {request : StreamRequest} {sink : Sink},
    c.sink.sendCommand c.settings.encoding request.command = (.ok (), sink) →
    { c with sink }.EndsStrictly info behind (Connection.openStream request c)
  write : ∀ {path : Text} {data : Bytes} {sink : Sink},
    c.sink.sendCommand c.settings.encoding (.write path (.ofNat data.length)) = (.ok (), sink) →
    { c with sink }.EndsStrictly info behind (Connection.write path data c)
  chunkedResponse : Reader.EndsLaxly info behind (Reader.readChunkedResponse c.reader)

/-- What becomes of an exchange over a connection on all paths, if the line that stands first cannot
be read. -/
structure Connection.MissesRefusal (c : Connection) (e : WireError) (behind : Reader) : Prop where
  openStream : ∀ {request : StreamRequest} {sink : Sink},
    c.sink.sendCommand c.settings.encoding request.command = (.ok (), sink) →
    Connection.openStream request c
      = (.error (.wire e), { c with sink, reader := behind, health := .broken })
  write : ∀ {path : Text} {data : Bytes} {sink : Sink},
    c.sink.sendCommand c.settings.encoding (.write path (.ofNat data.length)) = (.ok (), sink) →
    Connection.write path data c
      = (.error (.wire e), { c with sink, reader := behind, health := .broken })
  chunkedResponse : Reader.readChunkedResponse c.reader = (.error e, behind)

namespace Reader

variable {r behind : Reader} {line info : Text} {e : WireError}

/-- A line that can be understood is a status line. -/
theorem readStatus_of_line {parts : Status × Text} (read : readLine r = (.ok line, behind))
    (parsed : Status.parseLine line = .ok parts) : readStatus r = (.ok parts, behind) := by
  -- The status is read as a line and then understood.
  rw [readStatus, Step.bind_ok read, Step.ofExcept_apply, parsed]

/-- Where no line can be read, there is no response either. -/
theorem readChunkedResponse_of_error (read : readLine r = (.error e, behind)) :
    readChunkedResponse r = (.error e, behind) :=
  -- The status line is read first, and fails here.
  Step.bind_error (Step.bind_error read _) _

/-- In place of data an error line is read with the payload lines behind it. -/
theorem readChunkedResponse_refused (read : readLine r = (.ok line, behind))
    (isError : Status.parseLine line = .ok (.err, info)) :
    readChunkedResponse r
      = (do return ⟨.err, info, .lines (← readLines)⟩ : Reading Response) behind :=
  -- The status is an error, and so the rest is taken for lines.
  Step.bind_ok (readStatus_of_line read isError) _

/-- A payload that begins with the sentinel has no lines. -/
theorem readLines_of_sentinel (read : readLine behind = (.ok Line.sentinel, r)) :
    readLines behind = (.ok [], r) := by
  -- The loop is opened once, with nothing gathered so far.
  have opened := congrFun (readLinesAfter_eq []) behind
  exact opened.trans ((Step.bind_ok read _).trans (if_pos rfl))

/-- A payload that begins with another line goes on behind it. -/
theorem readLines_of_line (read : readLine behind = (.ok line, r)) (notLast : line ≠ Line.sentinel) :
    readLines behind = readLinesAfter [Line.unstuff line] r := by
  -- Opened once again, it goes on with the line as the first that was gathered.
  have opened := congrFun (readLinesAfter_eq []) behind
  exact opened.trans ((Step.bind_ok read _).trans (if_neg notLast))

/-- A payload whose first line cannot be read is not read. -/
theorem readLines_of_error (read : readLine behind = (.error e, r)) :
    readLines behind = (.error e, r) := by
  -- And fails with the first line if that fails.
  have opened := congrFun (readLinesAfter_eq []) behind
  exact opened.trans (Step.bind_error read _)

/-- In place of data any lines may follow an error line. -/
theorem endsLaxly (read : readLine r = (.ok line, behind))
    (isError : Status.parseLine line = .ok (.err, info)) :
    EndsLaxly info behind (readChunkedResponse r) := by
  rw [readChunkedResponse_refused read isError]
  constructor
  · intro after sentinel
    exact Step.bind_ok (readLines_of_sentinel sentinel) _
  · intro next after found notLast response last done
    obtain ⟨all, _, taken, made⟩ := Step.bind_eq_ok.mp done
    cases made
    rw [readLines_of_line found notLast] at taken
    obtain ⟨frame, ⟨lines, rfl, payload⟩, front, _⟩ := readLinesAfter_takes _ taken
    obtain ⟨_, _, _, kept⟩ := readLine_takes found
    exact ⟨lines, frame, rfl, kept ▸ payload, front⟩
  · intro e after missing
    exact Step.bind_error (readLines_of_error missing) _
  · intro e failed
    -- Only the payload lines can fail, and they do so for outages.
    rcases Step.bind_eq_error.mp (Prod.ext failed rfl) with failed | ⟨_, _, _, failed⟩
    · exact readLinesAfter_error failed
    · cases failed
  · intro lines layout rest payload short comes
    obtain ⟨last, taken, left, _⟩ := (payload.asks []).prompt short rfl comes
    exact ⟨last, Step.bind_ok taken _, left⟩

end Reader

namespace Connection

variable {α : Type} {c : Connection} {behind : Reader} {sink : Sink} {line info : Text}
  {e : WireError}

/-- What fails once something was sent breaks the connection. -/
theorem receive_of_error {reading : Reading α} (read : reading c.reader = (.error e, behind))
    (late : e.beforeSending = false) :
    receive reading c = (.error (.wire e), { c with reader := behind, health := .broken }) := by
  -- An error that does not come before sending is one the guard breaks the connection for.
  simp only [receive, read, guard, late]
  rfl

/-- The end of a refusal where only the sentinel may follow the error line. -/
def endRefusal (info : Text) : Client α := do
  receive Reader.expectSentinel
  throw (.daemon (.ofInfo info))

/-- The end of a refusal is strict. -/
theorem endRefusal_strict (c : Connection) (info : Text) (behind : Reader) :
    c.EndsStrictly info behind (endRefusal (α := α) info { c with reader := behind }) where
  -- The three fields are the three things that can follow: the sentinel, another line, no line.
  sentinel after read := by
    have ended : Reader.expectSentinel behind = (.ok (), after) := Step.bind_ok read _
    exact Step.bind_ok (receive_of_ok ended) _
  other line after read notLast := by
    have failed : Reader.expectSentinel behind = (.error (.unexpectedLine line), after) := by
      rw [Reader.expectSentinel, Step.bind_ok read, if_pos notLast]
      rfl
    exact Step.bind_error (receive_of_error failed rfl) _
  missing e after read := by
    have failed : Reader.expectSentinel behind = (.error e, after) := Step.bind_error read _
    -- An outage does not count as an error before sending, and so breaks the connection.
    have late := WireError.beforeSending_of_isOutage (Reader.readLine_error read)
    exact Step.bind_error (receive_of_error failed late) _

/-- In place of a stream an error line is a refusal. -/
theorem openStream_endRefusal {request : StreamRequest} (usable : c.isUsable = true)
    (sent : c.sink.sendCommand c.settings.encoding request.command = (.ok (), sink))
    (read : Reader.readLine c.reader = (.ok line, behind))
    (isError : Status.parseLine line = .ok (.err, info)) :
    openStream request c = endRefusal info { c with sink, reader := behind } := by
  -- What was sent has no effect on the reader, so that the line is read as the status.
  have status : Reader.readStatus { c with sink }.reader = (.ok (.err, info), behind) :=
    Reader.readStatus_of_line read isError
  rw [openStream, Step.bind_ok (send_taken usable sent), Step.bind_ok (receive_of_ok status)]
  rfl

/-- In place of the go-ahead for an upload an error line is a refusal. -/
theorem write_endRefusal {path : Text} {data : Bytes} (usable : c.isUsable = true)
    (sent : c.sink.sendCommand c.settings.encoding (.write path (.ofNat data.length))
      = (.ok (), sink))
    (read : Reader.readLine c.reader = (.ok line, behind))
    (isError : Status.parseLine line = .ok (.err, info)) :
    write path data c = endRefusal info { c with sink, reader := behind } := by
  -- An error line is not the go-ahead, since the go-ahead parses as no error.
  have notReady : line ≠ readyLine := by
    rintro rfl
    cases isError
  have heard : announce path data c = (.ok line, { c with sink, reader := behind }) := by
    rw [announce, Step.bind_ok (send_taken usable sent)]
    exact receive_of_ok read
  rw [write_eq, Step.bind_ok heard, proceed, if_pos notReady]
  simp only [refuseUpload, isError]
  rfl

/-- A command whose reply cannot be read breaks the connection. -/
theorem exchange_missed {command : Command} {reading : Reading α} (usable : c.isUsable = true)
    (sent : c.sink.sendCommand c.settings.encoding command = (.ok (), sink))
    (read : reading c.reader = (.error e, behind)) (late : e.beforeSending = false) :
    (do send command; receive reading : Client α) c
      = (.error (.wire e), { c with sink, reader := behind, health := .broken }) := by
  -- The sending goes through, so that the failure is that of the reading.
  rw [Step.bind_ok (send_taken usable sent)]
  exact receive_of_error read late

/-- Where the line that stands first cannot be read, all paths fail alike. -/
theorem missesRefusal (usable : c.isUsable = true)
    (read : Reader.readLine c.reader = (.error e, behind)) : c.MissesRefusal e behind where
  -- A stream reads a status, an upload a line, and both are the same first line.
  openStream sent := by
    have status : Reader.readStatus c.reader = (.error e, behind) := Step.bind_error read _
    have late := WireError.beforeSending_of_isOutage (Reader.readLine_error read)
    have missed := exchange_missed usable sent status late
    rw [openStream, Step.bind_assoc, Step.bind_error missed]
  write sent := by
    have late := WireError.beforeSending_of_isOutage (Reader.readLine_error read)
    rw [write_eq, announce, Step.bind_error (exchange_missed usable sent read late)]
  chunkedResponse := Reader.readChunkedResponse_of_error read

/-- Where an error line stands first, it is read on all paths, or none. Once it was read, a stream
and an upload report its error exactly if the sentinel is the next line, and take just these two
lines. Any other line breaks the connection. In place of data all lines up to some sentinel are taken
instead, and no line is unexpected, so that the paths part exactly at another line that can be
read. -/
theorem refusal_ends {first rest : Bytes} (usable : c.isUsable = true)
    (isLine : LineFrame c.reader.encoding line first)
    (isError : Status.parseLine line = .ok (.err, info)) (stands : c.unread = first ++ rest) :
    (∃ behind, Reader.readLine c.reader = (.ok line, behind) ∧ behind.unread = rest ∧
      c.EndsRefusal info behind ∧
      ∀ next after, Reader.readLine behind = (.ok next, after) →
        ∃ second, LineFrame c.reader.encoding next second ∧ rest = second ++ after.unread) ∨
    ∃ e behind, Reader.readLine c.reader = (.error e, behind) ∧ e.isOutage = true ∧
      c.MissesRefusal e behind := by
  -- The line that stands first is read, or it is missing: in the second case all paths fail with
  -- the same error.
  rcases read : Reader.readLine c.reader with ⟨e | said, behind⟩
  · exact .inr ⟨e, behind, rfl, Reader.readLine_error read, missesRefusal usable read⟩
  -- What is read is the line that stands there, since the layout of a line is unambiguous.
  · have whole : c.reader.unread ++ [] = first ++ rest := by rw [List.append_nil, ← stands]; rfl
    obtain ⟨rfl, left, kept⟩ := Reader.readLine_expected isLine whole read
    rw [List.append_nil] at left
    refine .inl ⟨behind, rfl, left, ⟨fun sent => ?_, fun sent => ?_, ?_⟩, fun next after found => ?_⟩
    · rw [openStream_endRefusal usable sent read isError]
      exact endRefusal_strict _ info behind
    · rw [write_endRefusal usable sent read isError]
      exact endRefusal_strict _ info behind
    · exact Reader.endsLaxly read isError
    · obtain ⟨second, isNext, front, _⟩ := Reader.readLine_takes found
      exact ⟨second, kept ▸ isNext, left ▸ front⟩

/-- A connection over which a line comes between an error line and the sentinel, and then another
reply. -/
def overheard : Connection where
  reader := .ofSource ⟨[.bytes [69, 82, 82, 32, 50, 48, 48, 32, 120, 10, 102, 111] (by decide),
    .bytes [111, 10, 46, 10, 79, 75, 10, 46, 10] (by decide)], .closed⟩ .latin1
  sink := .accepting
  settings := .usual
  health := .ready
  waitLimit? := Settings.usual.replyLimit?
  banner := []
  version := ⟨0, 1, 0⟩

/-- The line between and the sentinel are a payload. -/
theorem overheard_payload :
    PayloadLayout .latin1 ["foo".toList] [.line [102, 111, 111], .line [46]] := by
  -- Both lines are delimited by a line feed alone.
  have isLine : LineBytes [102, 111, 111] [102, 111, 111] := ⟨by decide, rfl⟩
  exact .line isLine (by decide) (.sentinel (.line ⟨by decide, rfl⟩))

/-- The line between breaks the connection on two paths, and is taken for a part of the error on the
third. -/
theorem refusal_ends_overheard :
    (∃ after, openStream (.tail ['x']) overheard
      = (.error (.wire (.unexpectedLine "foo".toList)), after) ∧ after.isUsable = false) ∧
    (∃ after, write ['x'] [65] overheard
      = (.error (.wire (.unexpectedLine "foo".toList)), after) ∧ after.isUsable = false) ∧
    ∃ last, Reader.readChunkedResponse overheard.reader
      = (.ok ⟨.err, "200 x".toList, .lines ["foo".toList]⟩, last) ∧
      last.coming = [79, 75, 10, 46, 10] := by
  have isLine : LineFrame .latin1 "ERR 200 x".toList [69, 82, 82, 32, 50, 48, 48, 32, 120, 10] :=
    ⟨[69, 82, 82, 32, 50, 48, 48, 32, 120], by decide, by decide, rfl⟩
  rcases @refusal_ends overheard _ "200 x".toList _
    [102, 111, 111, 10, 46, 10, 79, 75, 10, 46, 10] (by decide) isLine (by decide) (by decide) with
    ⟨behind, read, _, ends, _⟩ | ⟨e, behind, read, _⟩
  · -- The line that comes next is the one between.
    obtain rfl : (Reader.readLine overheard.reader).2 = behind := congrArg Prod.snd read
    have next : Reader.readLine (Reader.readLine overheard.reader).2 = (.ok "foo".toList, _) := rfl
    refine ⟨⟨_, (ends.openStream rfl).other _ _ next (by decide), rfl⟩,
      ⟨_, (ends.write rfl).other _ _ next (by decide), rfl⟩, ?_⟩
    exact ends.chunkedResponse.lines overheard_payload (Layout.short_of_length_le (by decide)) rfl
  · have found : Reader.readLine overheard.reader = (.ok "ERR 200 x".toList, _) := rfl
    rw [found] at read
    cases read

/-- In place of data the line behind an error line need not be the sentinel, and is not unexpected
if it is another one. -/
theorem not_refusal_ends_alike :
    (∃ behind after, Reader.readLine overheard.reader = (.ok "ERR 200 x".toList, behind) ∧
      Status.parseLine "ERR 200 x".toList = .ok (.err, "200 x".toList) ∧
      Reader.readLine behind = (.ok "foo".toList, after) ∧ "foo".toList ≠ Line.sentinel) ∧
    ∃ last, Reader.readChunkedResponse overheard.reader
      = (.ok ⟨.err, "200 x".toList, .lines ["foo".toList]⟩, last) := by
  -- The line of the error is read first, and another line behind it.
  have isError : Status.parseLine "ERR 200 x".toList = .ok (.err, "200 x".toList) := by decide
  refine ⟨⟨_, _, rfl, isError, rfl, by decide⟩, ?_⟩
  -- The transfer goes on behind the error line up to the sentinel, as the general statement has it.
  have lax : Reader.EndsLaxly "200 x".toList _ (Reader.readChunkedResponse overheard.reader) :=
    Reader.endsLaxly rfl isError
  obtain ⟨last, taken, _⟩ :=
    lax.lines overheard_payload (Layout.short_of_length_le (by decide)) rfl
  exact ⟨last, taken⟩

end Connection
end AmigaRemote
