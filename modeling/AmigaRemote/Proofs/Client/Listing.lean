import AmigaRemote.Proofs.Client.ErrorLine
import AmigaRemote.Proofs.Client.Exchange
import AmigaRemote.Proofs.Reply.Listing
import AmigaRemote.Proofs.Wire.LineRoundTrip

/-! Listings survive the wire: what was written for the entries of a directory is read as these
entries, and one bad line spoils a listing but not the connection. -/

namespace AmigaRemote.Connection

open DirEntry (Describes Row Suffices)

variable {c : Connection} {sink : Sink} {behind : Reader} {path info : Text} {lines : List Text}

/-- A connection over which a command can be sent, and then a frame comes whole, in whatever pieces,
with no line beyond the limit. -/
structure Brings (c : Connection) (command : Command) (frame rest : Bytes) : Prop where
  usable : c.isUsable = true
  sent : (c.sink.sendCommand c.settings.encoding command).1 = .ok ()
  within : Line.Within frame
  stands : c.unread = frame ++ rest
  comes : frame <+: c.reader.coming

/-- A reply without an error is what was asked for. -/
theorem request_of_read {command : Command} (usable : c.isUsable = true)
    (lined : command.framing = .lines)
    (sent : c.sink.sendCommand c.settings.encoding command = (.ok (), sink))
    (read : Reader.readResponse c.reader = (.ok (.ok info lines), behind)) :
    request command c = (.ok (.ok info lines), { c with sink, reader := behind }) := by
  have received : receive Reader.readResponse { c with sink }
      = (.ok (.ok info lines), { c with sink, reader := behind }) :=
    receive_of_ok read
  have answered : execute command c
      = (.ok (.ok info lines), { c with sink, reader := behind }) := by
    simp only [execute, lined]
    rw [Step.bind_ok (send_taken usable sent), received]
  -- A reply without an error is accepted as it is.
  rw [request, Step.bind_ok answered]
  rfl

section Read

variable (usable : c.isUsable = true)
  (sent : c.sink.sendCommand c.settings.encoding (.dir path) = (.ok (), sink))
  (read : Reader.readResponse c.reader = (.ok (.ok info lines), behind))
include usable sent read

/-- Once its lines were read, a listing is what they tell. -/
theorem dir_of_read :
    dir path c = understand (DirEntry.parseAll lines) { c with sink, reader := behind } :=
  -- The listing is a request whose answer is then understood.
  Step.bind_ok (request_of_read usable rfl sent read) _

/-- Entries that the lines tell are returned. -/
theorem dir_of_describes {entries : List DirEntry} (tell : List.Forall₂ Describes entries lines) :
    dir path c = (.ok entries, { c with sink, reader := behind }) := by
  -- The rows are parsed one by one, so that a line that tells no entry is the only way to fail.
  rw [dir_of_read usable sent read, DirEntry.parseAll_eq_ok.mpr tell]
  rfl

/-- Where each line tells an entry, they are all returned. -/
theorem dir_of_suffices (enough : ∀ line ∈ lines, Suffices line) :
    ∃ entries, List.Forall₂ Describes entries lines ∧
      dir path c = (.ok entries, { c with sink, reader := behind }) := by
  -- A list of lines parses as a whole exactly if each of its lines parses.
  obtain ⟨entries, parsed⟩ : ∃ entries, DirEntry.parseAll lines = .ok entries :=
    Except.exists_mapM_eq_ok.mpr fun line member => DirEntry.exists_parse.mpr (enough line member)
  have tell := DirEntry.parseAll_eq_ok.mp parsed
  exact ⟨entries, tell, dir_of_describes usable sent read tell⟩

/-- Where a line lacks something, the first such line is reported, and no entry is returned. -/
theorem dir_of_not_suffices (bad : ∃ line ∈ lines, ¬Suffices line) :
    ∃ front line back, lines = front ++ line :: back ∧ (∀ line ∈ front, Suffices line) ∧
      ¬Suffices line ∧
      dir path c = (.error (.unexpectedReply (.malformedEntry line)),
        { c with sink, reader := behind }) := by
  -- The first line that lacks something is the one the parser stops at.
  obtain ⟨front, line, back, rfl, before, lacks⟩ := exists_first_not bad
  refine ⟨front, line, back, rfl, before, lacks, ?_⟩
  rw [dir_of_read usable sent read, DirEntry.parseAll_of_not_suffices before lacks]
  rfl

end Read

/-- A response that comes is read, and nothing behind it is. -/
theorem Brings.read {command : Command} {response : Response} {frame rest : Bytes}
    (brings : c.Brings command frame rest)
    (isFrame : ResponseFrame c.reader.encoding response frame) :
    ∃ behind, Reader.readResponse c.reader = (.ok response, behind) ∧ behind.unread = rest :=
  -- The frame has come within the limits of the reader, so that the round trip of responses
  -- applies.
  (Reader.readResponse_arrives isFrame brings.within).readsBack rfl brings.stands brings.comes

/-- Rows that come are read as their entries. -/
theorem Brings.dir_rows {chunkSize : Nat} {rows : List Row} {bytes rest : Bytes}
    (brings : c.Brings (.dir path) bytes rest) (infoLine : '\n' ∉ info)
    (encoded : Response.encode c.reader.encoding chunkSize (.ok info (rows.map Row.line))
      = .ok bytes) :
    ∃ after, dir path c = (.ok (rows.map Row.entry), after) ∧ after.isUsable = true ∧
      after.unread = rest := by
  have safe : ∀ line ∈ rows.map Row.line, Line.Safe line := by
    intro line member
    obtain ⟨row, _, rfl⟩ := List.mem_map.mp member
    exact row.safe
  have frame := Response.responseFrame_of_encode encoded infoLine fun line member =>
    (safe line member).1
  -- No row ends in a carriage return, so all of them arrive as they are.
  rw [Line.map_received_eq_self.mpr fun line member => (safe line member).2] at frame
  obtain ⟨behind, read, left⟩ := brings.read frame
  have sent : c.sink.sendCommand c.settings.encoding (.dir path) = (.ok (), _) :=
    Prod.ext brings.sent rfl
  have tell : List.Forall₂ Describes (rows.map Row.entry) (rows.map Row.line) :=
    DirEntry.parseAll_eq_ok.mp (DirEntry.parseAll_rows rows)
  exact ⟨_, dir_of_describes brings.usable sent read tell, brings.usable, left⟩

/-- A listing is what its lines tell.

- Rows that were written for any entries come back as these entries, in their order, whatever the
  transport makes of the bytes.
- Of any response without an error that is read, the lines tell the entries if each of them tells
  one. Otherwise the first line that does not is reported. In both cases exactly the frame of the
  response was taken, and the connection stays usable.
- Every such response is read if it comes with no line beyond the limit. -/
theorem dir_of_listing (path : Text) :
    (∀ (encoding : Encoding) (chunkSize : Nat) (info : Text) (rows : List Row), '\n' ∉ info →
      (∃ raw, encoding.encode info = .ok raw) → (∀ row ∈ rows, row.Encodable encoding) →
      ∃ bytes, Response.encode encoding chunkSize (.ok info (rows.map Row.line)) = .ok bytes ∧
        ∀ (c : Connection) (rest : Bytes), c.reader.encoding = encoding →
          c.Brings (.dir path) bytes rest →
          ∃ after, dir path c = (.ok (rows.map Row.entry), after) ∧ after.isUsable = true ∧
            after.unread = rest) ∧
    (∀ (c : Connection) (sink : Sink) (info : Text) (lines : List Text) (behind : Reader),
      c.isUsable = true →
      c.sink.sendCommand c.settings.encoding (.dir path) = (.ok (), sink) →
      Reader.readResponse c.reader = (.ok (.ok info lines), behind) →
      ∃ after frame, after.isUsable = true ∧
        ResponseFrame c.reader.encoding (.ok info lines) frame ∧
        c.unread = frame ++ after.unread ∧
        ((∀ line ∈ lines, Suffices line) →
          ∃ entries, List.Forall₂ Describes entries lines ∧ dir path c = (.ok entries, after)) ∧
        ((∃ line ∈ lines, ¬Suffices line) →
          ∃ front line back, lines = front ++ line :: back ∧ (∀ line ∈ front, Suffices line) ∧
            ¬Suffices line ∧
            dir path c = (.error (.unexpectedReply (.malformedEntry line)), after))) ∧
    ∀ (c : Connection) (info : Text) (lines : List Text) (frame rest : Bytes),
      ResponseFrame c.reader.encoding (.ok info lines) frame → c.Brings (.dir path) frame rest →
      ∃ behind, Reader.readResponse c.reader = (.ok (.ok info lines), behind) ∧
        behind.unread = rest := by
  refine ⟨?_, ?_, fun c info lines frame rest isFrame brings => brings.read isFrame⟩
  · -- Rows that were written: each of them is a line that can be encoded, and so is the response.
    intro encoding chunkSize info rows infoLine infoWritten encodable
    have linesWritten : ∀ line ∈ rows.map Row.line, ∃ raw, encoding.encode line = .ok raw := by
      intro line member
      obtain ⟨row, isRow, rfl⟩ := List.mem_map.mp member
      exact row.exists_encode (encodable row isRow)
    obtain ⟨bytes, encoded⟩ := Response.exists_encode_lines chunkSize infoWritten linesWritten
    refine ⟨bytes, encoded, ?_⟩
    rintro c rest rfl brings
    exact brings.dir_rows infoLine encoded
  · -- Any response that was read: what the reader took of the source is its frame.
    intro c sink info lines behind usable sent read
    obtain ⟨frame, isFrame, front, _⟩ := Reader.readResponse_takes read
    exact ⟨{ c with sink, reader := behind }, frame, usable, isFrame, front,
      dir_of_suffices usable sent read, dir_of_not_suffices usable sent read⟩

/-- A connection over which some pieces arrive. -/
def sampled (pieces : List Delivery) : Connection where
  reader := .ofSource ⟨pieces, .closed⟩ .latin1
  sink := .accepting
  settings := .usual
  health := .ready
  waitLimit? := Settings.usual.replyLimit?
  banner := []
  version := ⟨0, 1, 0⟩

/-- Rows with kinds in letters of any case. The first has a name that begins with a dot and a
property more, the second a name that is not plain. -/
def sampleRows : List Row :=
  [{ entry := ⟨.file, ".a".toList, 7, ['r'], ['d']⟩
     word := "fILE".toList
     further := [['x']]
     names := by decide
     named := by decide
     apart := by decide
     oneLine := by decide },
   { entry := ⟨.dir, ['ä'], 0, [], []⟩
     word := "Dir".toList
     further := []
     names := by decide
     named := by decide
     apart := by decide
     oneLine := by decide }]

/-- The bytes of the rows. -/
def rowBytes : Bytes :=
  [79, 75, 10, 102, 73, 76, 69, 9, 46, 97, 9, 55, 9, 114, 9, 100, 9, 120, 10, 68, 105, 114, 9, 228,
    9, 48, 9, 9, 10, 46, 10]

/-- The bytes of a row and of one without a name. -/
def spoiledBytes : Bytes :=
  [79, 75, 10, 70, 73, 76, 69, 9, 97, 9, 49, 10, 68, 73, 82, 9, 9, 48, 10, 46, 10]

/-- The rows cut in the middle, and a part of another reply. -/
def rowPieces : List Delivery :=
  [.bytes (rowBytes.take 14) (by decide), .fault (.ofKind .interrupted),
    .bytes (rowBytes.drop 14 ++ [79]) (by decide)]

/-- The row without a name cut in the middle, and a part of another reply. -/
def spoiledPieces : List Delivery :=
  [.bytes (spoiledBytes.take 13) (by decide), .bytes (spoiledBytes.drop 13 ++ [79]) (by decide)]

/-- Both entries come back although the bytes of their rows are cut, and the row without a name is
reported. -/
theorem dir_of_listing_sampleRows :
    (∃ after, dir ['x'] (sampled rowPieces) = (.ok (sampleRows.map Row.entry), after) ∧
      after.isUsable = true ∧ after.unread = [79]) ∧
    ∃ after, dir ['x'] (sampled spoiledPieces)
        = (.error (.unexpectedReply (.malformedEntry "DIR\t\t0".toList)), after) ∧
      after.isUsable = true := by
  obtain ⟨written, read, arrives⟩ := dir_of_listing ['x']
  constructor
  · have encodable : ∀ row ∈ sampleRows, row.Encodable .latin1 := by
      intro row isRow text isText
      apply Encoding.exists_encode_eq_ok.mpr
      intro _ c member
      revert c text row
      simp [sampleRows, DirEntry.texts]
    obtain ⟨bytes, encoded, comes⟩ :=
      written .latin1 Chunk.defaultSize [] sampleRows (by decide) ⟨[], rfl⟩ encodable
    have known : Response.encode .latin1 Chunk.defaultSize (.ok [] (sampleRows.map Row.line))
        = .ok rowBytes := rfl
    cases encoded.symm.trans known
    have brings : (sampled rowPieces).Brings (.dir ['x']) rowBytes [79] := {
      usable := rfl
      sent := rfl
      within := Line.within_of_length_le (by decide)
      stands := rfl
      comes := ⟨[79], rfl⟩ }
    exact comes _ _ rfl brings
  · have encoded : Response.encode .latin1 Chunk.defaultSize
        (.ok [] ["FILE\ta\t1".toList, "DIR\t\t0".toList]) = .ok spoiledBytes := rfl
    have isFrame := Response.responseFrame_of_encode encoded (by decide) (by decide)
    have brings : (sampled spoiledPieces).Brings (.dir ['x']) spoiledBytes [79] := {
      usable := rfl
      sent := rfl
      within := Line.within_of_length_le (by decide)
      stands := rfl
      comes := ⟨[79], rfl⟩ }
    obtain ⟨behind, found, _⟩ := arrives _ _ _ _ _ isFrame brings
    obtain ⟨after, _, usable, _, _, _, refused⟩ := read _ _ _ _ _ rfl rfl found
    have first : Suffices "FILE\ta\t1".toList := DirEntry.exists_parse.mp ⟨_, rfl⟩
    have second : ¬Suffices "DIR\t\t0".toList := by
      intro enough
      obtain ⟨entry, parsed⟩ := DirEntry.exists_parse.mpr enough
      have failed : DirEntry.parse "DIR\t\t0".toList = .error (.malformedEntry _) := rfl
      rw [failed] at parsed
      cases parsed
    obtain ⟨front, line, back, same, before, lacks, reported⟩ :=
      refused ⟨_, List.mem_cons_of_mem _ List.mem_cons_self, second⟩
    -- The row is the first line that is refused.
    rcases front with _ | ⟨_, _ | _⟩
    · cases same
      exact absurd first lacks
    · cases same
      exact ⟨after, reported, usable⟩
    · simp at same

end AmigaRemote.Connection
