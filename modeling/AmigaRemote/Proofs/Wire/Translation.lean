import AmigaRemote.Proofs.Wire.Decoding
import AmigaRemote.Proofs.Wire.Fragmentation
import Mathlib.Data.List.Forall2

/-! The same bytes read in ISO-8859-1 and in UTF-8. Whoever reads in the wrong encoding gets wrong
letters, but the same frames: every reading ends alike on both sides and takes the same bytes. -/

namespace AmigaRemote

/-- Two texts that are the same bytes, read in ISO-8859-1 and in UTF-8. -/
def SameBytes (left right : Text) : Prop :=
  ∃ bytes, left = Encoding.latin1.decode bytes ∧ right = Encoding.utf8.decode bytes

/-- The text that a failure quotes. -/
def WireError.quoted? : WireError → Option Text
  | closedMidLine part => some part
  | unexpectedStatus line | malformedChunkHeader line | unexpectedLine line => some line
  | invalidBanner line => some line
  | _ => none

/-- Two failures that differ in the letters of what they quote, if in anything. -/
inductive WireError.Twins : WireError → WireError → Prop where
  | plain {e : WireError} (silent : e.quoted? = none) : Twins e e
  | closedMidLine {left right : Text} (same : SameBytes left right) :
    Twins (.closedMidLine left) (.closedMidLine right)
  | unexpectedStatus {left right : Text} (same : SameBytes left right) :
    Twins (.unexpectedStatus left) (.unexpectedStatus right)
  | malformedChunkHeader {left right : Text} (same : SameBytes left right) :
    Twins (.malformedChunkHeader left) (.malformedChunkHeader right)
  | unexpectedLine {left right : Text} (same : SameBytes left right) :
    Twins (.unexpectedLine left) (.unexpectedLine right)

/-- Two errors of the daemon that differ in the letters of their detail, if in anything. -/
structure DaemonError.Twins (left right : DaemonError) : Prop where
  code : left.code = right.code
  kind : left.kind = right.kind
  detail : SameBytes left.detail right.detail

/-- Two payloads: as many lines that differ in letters, or the same data. -/
inductive Payload.Twins : Payload → Payload → Prop where
  | lines {left right : List Text} (same : List.Forall₂ SameBytes left right) :
    Twins (.lines left) (.lines right)
  | binary (data : Bytes) : Twins (.binary data) (.binary data)

/-- Two responses that differ in letters, if in anything, and report the same error. -/
structure Response.Twins (left right : Response) : Prop where
  status : left.status = right.status
  info : SameBytes left.info right.info
  payload : Payload.Twins left.payload right.payload
  error : Option.Rel DaemonError.Twins left.error? right.error?

/-- Two steps of a transfer of the same kind and with the same data. -/
inductive Chunk.Twins : Chunk → Chunk → Prop where
  | data (bytes : Bytes) : Twins (.data bytes) (.data bytes)
  | ended : Twins .ended .ended
  | aborted {left right : DaemonError} (same : left.Twins right) :
    Twins (.aborted left) (.aborted right)

/-- Two verdicts with infos that differ in letters, if in anything. -/
def Status.Twins (left right : Status × Text) : Prop :=
  left.1 = right.1 ∧ SameBytes left.2 right.2

/-- Two answers that differ in letters, if in anything. -/
inductive ReadAnswer.Twins : ReadAnswer → ReadAnswer → Prop where
  | text {left right : Text} (same : SameBytes left right) : Twins (.text left) (.text right)
  | bytes (bytes : Bytes) : Twins (.bytes bytes) (.bytes bytes)
  | status {verdict : Status} {left right : Text} (same : SameBytes left right) :
    Twins (.status verdict left) (.status verdict right)
  | lines {left right : List Text} (same : List.Forall₂ SameBytes left right) :
    Twins (.lines left) (.lines right)
  | sentinel : Twins .sentinel .sentinel
  | chunk {left right : Chunk} (same : left.Twins right) : Twins (.chunk left) (.chunk right)
  | response {left right : Response} (same : left.Twins right) :
    Twins (.response left) (.response right)

/-- Two outcomes of the same kind: results that are related, or failures that differ in letters, if
in anything. -/
inductive Outcomes {α : Type} (related : α → α → Prop) :
    Except WireError α → Except WireError α → Prop where
  | ok {a b : α} (results : related a b) : Outcomes related (.ok a) (.ok b)
  | error {e f : WireError} (failures : e.Twins f) : Outcomes related (.error e) (.error f)

namespace SameBytes

variable {left right : Text}

/-- Bytes are the same as themselves. -/
theorem decode (bytes : Bytes) :
    SameBytes (Encoding.latin1.decode bytes) (Encoding.utf8.decode bytes) :=
  -- The bytes that both were read from are these.
  ⟨bytes, rfl, rfl⟩

/-- Plain text in front is the same in both encodings. -/
theorem plain_append {text : Text} (plain : ∀ c ∈ text, c.toNat < 0x80)
    (same : SameBytes left right) : SameBytes (text ++ left) (text ++ right) := by
  -- The plain text has the same bytes in both.
  obtain ⟨bytes, rfl, rfl⟩ := same
  refine ⟨text.plainBytes ++ bytes, ?_, ?_⟩
  all_goals exact ((Encoding.decode_eq_append plain).mpr ⟨bytes, rfl, rfl⟩).symm

/-- A plain text is the one exactly if it is the other. -/
theorem eq_plain_iff {text : Text} (plain : ∀ c ∈ text, c.toNat < 0x80)
    (same : SameBytes left right) : left = text ↔ right = text := by
  -- The bytes of the plain text are its only ones in either encoding.
  obtain ⟨bytes, rfl, rfl⟩ := same
  rw [Encoding.decode_eq_plain plain, Encoding.decode_eq_plain plain]

/-- A line loses its added dot in both encodings or in none. -/
theorem unstuff (same : SameBytes left right) :
    SameBytes (Line.unstuff left) (Line.unstuff right) := by
  obtain ⟨bytes, rfl, rfl⟩ := same
  have dots : ∀ c ∈ ['.', '.'], c.toNat < 0x80 := by simp
  by_cases stuffed : ∃ back, bytes = Text.plainBytes ['.', '.'] ++ back
  · obtain ⟨back, rfl⟩ := stuffed
    have decoded : ∀ encoding : Encoding,
        encoding.decode (Text.plainBytes ['.', '.'] ++ back)
          = ['.', '.'] ++ encoding.decode back := fun encoding =>
      (Encoding.decode_eq_append dots).mpr ⟨back, rfl, rfl⟩
    rw [decoded, decoded]
    exact plain_append Line.sentinel_plain (decode back)
  · -- Without two dots in front nothing is taken away.
    have kept : ∀ encoding : Encoding,
        Line.unstuff (encoding.decode bytes) = encoding.decode bytes := by
      intro encoding
      unfold Line.unstuff
      split
      · rename_i rest decoded
        obtain ⟨back, same, _⟩ :=
          (@Encoding.decode_eq_append encoding bytes ['.', '.'] rest dots).mp decoded
        exact absurd ⟨back, same⟩ stuffed
      · rfl
    rw [kept, kept]
    exact decode bytes

/-- A number is the same in both encodings, or is none in either. -/
theorem uint32? (same : SameBytes left right) :
    Decimal.uint32? left = Decimal.uint32? right := by
  obtain ⟨bytes, rfl, rfl⟩ := same
  -- Numbers are plain, so one encoding reads a number only where the other one does.
  have shared : ∀ (here there : Encoding) (n : Nat), Decimal.Spells n (here.decode bytes) →
      Decimal.Spells n (there.decode bytes) := by
    intro here there n spells
    have bytesPlain := (Encoding.decode_eq_plain spells.plain).mp rfl
    rwa [(Encoding.decode_eq_plain spells.plain).mpr bytesPlain]
  unfold Decimal.uint32?
  refine congrArg _ (Option.ext fun n => ?_)
  rw [Decimal.nat?_eq_some, Decimal.nat?_eq_some]
  exact and_congr_left fun _ => ⟨shared _ _ n, shared _ _ n⟩

/-- The info of an error line stands for the same error in both encodings. -/
theorem ofInfo (same : SameBytes left right) :
    DaemonError.Twins (.ofInfo left) (.ofInfo right) := by
  obtain ⟨bytes, rfl, rfl⟩ := same
  -- Whatever the token and the detail are, the token is a number in both encodings or in none.
  have understood : ∀ token detail : Bytes,
      (∀ encoding : Encoding, (encoding.decode bytes).splitFirst? ' ' =
          some (encoding.decode token, encoding.decode detail) ∨
        (encoding.decode bytes).splitFirst? ' ' = none ∧ token = bytes ∧ detail = []) →
      DaemonError.Twins (.ofInfo (Encoding.latin1.decode bytes))
        (.ofInfo (Encoding.utf8.decode bytes)) := by
    intro token detail parts
    have shape : ∀ encoding : Encoding, DaemonError.ofInfo (encoding.decode bytes) =
        (Decimal.uint32? (encoding.decode token)).elim ⟨0, encoding.decode bytes⟩
          fun code => ⟨code, encoding.decode detail⟩ := by
      intro encoding
      unfold DaemonError.ofInfo
      rcases parts encoding with cut | ⟨uncut, rfl, rfl⟩
      · simp only [cut, Option.getD_some]
        cases Decimal.uint32? (encoding.decode token) <;> rfl
      · simp only [uncut, Encoding.decode_nil, Option.getD_none]
        cases Decimal.uint32? (encoding.decode token) <;> rfl
    rw [shape, shape, uint32? (decode token)]
    cases Decimal.uint32? (Encoding.utf8.decode token) with
    | some code => exact ⟨rfl, rfl, decode detail⟩
    | none => exact ⟨rfl, rfl, decode bytes⟩
  by_cases cut : (32 : UInt8) ∈ bytes
  · obtain ⟨token, detail, rfl, free⟩ := List.eq_append_cons_of_mem cut
    refine understood token detail fun encoding => .inl ?_
    have noSpace : ' ' ∉ encoding.decode token :=
      fun member => free (Encoding.mem_of_mem_decode (by decide) member)
    have decoded := @Encoding.decode_append encoding 32 (by decide) token detail
    rw [decoded]
    exact Text.splitFirst?_append noSpace _
  · refine understood bytes [] fun encoding => .inr ⟨Text.splitFirst?_of_free ?_, rfl, rfl⟩
    exact fun member => cut (Encoding.mem_of_mem_decode (by decide) member)

end SameBytes

/-- A status line in one encoding is one in every encoding, with an info of the same bytes. -/
theorem StatusLine.inEvery {encoding : Encoding} {status : Status} {info : Text} {line : Bytes}
    (isStatus : StatusLine encoding status info line) :
    ∃ back, info = encoding.decode back ∧
      ∀ other : Encoding, StatusLine other status (other.decode back) line := by
  -- A bare line has an empty info in any encoding.
  cases isStatus with
  | bare =>
    refine ⟨[], Encoding.decode_nil.symm, fun other => ?_⟩
    rw [Encoding.decode_nil]
    exact .bare
  | withInfo back => exact ⟨back, rfl, fun other => .withInfo back⟩

/-- The same bytes have the same verdict, or none, in both encodings. -/
theorem SameBytes.parseLine {left right : Text} (same : SameBytes left right) :
    Outcomes Status.Twins (Status.parseLine left) (Status.parseLine right) := by
  obtain ⟨bytes, rfl, rfl⟩ := same
  rcases atLeft : Status.parseLine (Encoding.latin1.decode bytes) with e | ⟨status, info⟩
  · rcases atRight : Status.parseLine (Encoding.utf8.decode bytes) with f | ⟨status, info⟩
    · rw [Status.parseLine_error atLeft, Status.parseLine_error atRight]
      exact .error (.unexpectedStatus (.decode bytes))
    · -- The line would have a verdict in the other encoding as well.
      obtain ⟨back, _, every⟩ := (parseLine_decode.mp atRight).inEvery
      rw [parseLine_decode.mpr (every .latin1)] at atLeft
      cases atLeft
  · obtain ⟨back, rfl, every⟩ := (parseLine_decode.mp atLeft).inEvery
    rw [parseLine_decode.mpr (every .utf8)]
    exact .ok ⟨rfl, .decode back⟩

/-- The same bytes announce the same length, or none, in both encodings. -/
theorem SameBytes.parseHeader {left right : Text} (same : SameBytes left right) :
    Outcomes Eq (Chunk.parseHeader left) (Chunk.parseHeader right) := by
  obtain ⟨bytes, rfl, rfl⟩ := same
  rcases atLeft : Chunk.parseHeader (Encoding.latin1.decode bytes) with e | _ | length
  · -- A line that is good in the other encoding would be good in this one.
    rcases atRight : Chunk.parseHeader (Encoding.utf8.decode bytes) with f | _ | length
    · rw [Chunk.parseHeader_error atLeft, Chunk.parseHeader_error atRight]
      exact .error (.malformedChunkHeader (.decode bytes))
    · rw [parseHeader_decode_none.mpr (parseHeader_decode_none.mp atRight)] at atLeft
      cases atLeft
    · rw [parseHeader_decode.mpr (parseHeader_decode.mp atRight)] at atLeft
      cases atLeft
  · rw [parseHeader_decode_none.mpr (parseHeader_decode_none.mp atLeft)]
    exact .ok rfl
  · rw [parseHeader_decode.mpr (parseHeader_decode.mp atLeft)]
    exact .ok rfl

/-- Responses of the same status with infos and payloads that differ in letters report the same
error. -/
theorem Response.Twins.of {status : Status} {left right : Text} {payload payload' : Payload}
    (info : SameBytes left right) (payloads : Payload.Twins payload payload') :
    Response.Twins ⟨status, left, payload⟩ ⟨status, right, payload'⟩ := by
  refine ⟨rfl, info, payloads, ?_⟩
  -- Only an error is made into one, of the infos.
  cases status with
  | ok => exact .none
  | err => exact .some info.ofInfo

/-- Two readers at the same place of the same source, one for each encoding. -/
structure Reader.Twins (left right : Reader) : Prop where
  buffer : left.buffer = right.buffer
  source : left.source = right.source
  leftEncoding : left.encoding = .latin1
  rightEncoding : right.encoding = .utf8

/-- Two outcomes that are the same up to letters and leave readers at the same place. -/
def Parallel {α : Type} (related : α → α → Prop) (left right : Except WireError α × Reader) :
    Prop :=
  Outcomes related left.1 right.1 ∧ left.2.Twins right.2

/-- Two readings that give the same up to letters, one for each encoding. -/
def Mirrored {α : Type} (related : α → α → Prop) (x y : Reading α) : Prop :=
  ∀ ⦃left right : Reader⦄, left.Twins right → Parallel related (x left) (y right)

/-- Sequences run in parallel if their first parts do, and what follows does after all results that
these can have. -/
theorem Parallel.bind {α β : Type} {related : α → α → Prop} {related' : β → β → Prop}
    {x y : Reading α} {next next' : α → Reading β} {left right : Reader}
    (first : Parallel related (x left) (y right))
    (second : ∀ a b left' right', x left = (.ok a, left') → related a b → left'.Twins right' →
      Parallel related' (next a left') (next' b right')) :
    Parallel related' ((x >>= next) left) ((y >>= next') right) := by
  rw [Step.bind_apply, Step.bind_apply]
  obtain ⟨outcomes, readers⟩ := first
  rcases atLeft : x left with ⟨result, left'⟩
  rcases atRight : y right with ⟨result', right'⟩
  rw [atLeft, atRight] at outcomes readers
  -- Either both have failed alike, or both go on.
  cases outcomes with
  | ok results => exact second _ _ left' right' atLeft results readers
  | error failures => exact ⟨.error failures, readers⟩

namespace Mirrored

variable {α β : Type} {related : α → α → Prop} {related' : β → β → Prop}

/-- Sequences mirror each other if their parts do. -/
theorem bind {x y : Reading α} {next next' : α → Reading β} (first : Mirrored related x y)
    (second : ∀ a b, related a b → Mirrored related' (next a) (next' b)) :
    Mirrored related' (x >>= next) (y >>= next') :=
  -- Mirrored results are handed on to mirrored parts.
  fun _ _ readers => (first readers).bind fun a b _ _ _ results readers' =>
    second a b results readers'

/-- Results known beforehand mirror each other if they are related. -/
theorem pure {a b : α} (results : related a b) :
    Mirrored related (Pure.pure a : Reading α) (Pure.pure b) :=
  -- The readers are not touched.
  fun _ _ readers => ⟨.ok results, readers⟩

/-- Failures mirror each other if they differ in letters only. -/
theorem throw {e f : WireError} (failures : e.Twins f) :
    Mirrored related (MonadExcept.throw e : Reading α) (MonadExcept.throw f) :=
  -- Here the failures are all there is to compare.
  fun _ _ readers => ⟨.error failures, readers⟩

/-- Outcomes known beforehand mirror each other if they are of the same kind. -/
theorem ofExcept {result result' : Except WireError α} (outcomes : Outcomes related result result') :
    Mirrored related (Step.ofExcept result : Reading α) (Step.ofExcept result') :=
  -- Here it is either of the two.
  fun _ _ readers => ⟨outcomes, readers⟩

end Mirrored

/-- A failure of the transport quotes nothing. -/
theorem WireError.quoted?_ofFault (fault : Fault) : (WireError.ofFault fault).quoted? = none := by
  -- Every kind of fault becomes an error without a text.
  unfold ofFault
  cases fault.kind <;> rfl

namespace Reader

/-- The bytes of a line are the same in both encodings. -/
theorem readLineBytes_mirrored : Mirrored Eq readLineBytes readLineBytes := by
  rintro ⟨buffer, source, _⟩ ⟨_, _, _⟩ ⟨rfl, rfl, rfl, rfl⟩
  simp only [readLineBytes]
  -- The encoding plays a part only where a line is cut off.
  cases cutLine? buffer with
  | some parts => exact ⟨.ok rfl, rfl, rfl, rfl, rfl⟩
  | none =>
    simp only
    split
    · exact ⟨.error (.plain rfl), rfl, rfl, rfl, rfl⟩
    · rcases awaitLine source.ending buffer.reverse buffer.length source.deliveries with
        ⟨line, rest, behind⟩ | ⟨_ | _ | fault, buffered, behind⟩
      · exact ⟨.ok rfl, rfl, rfl, rfl, rfl⟩
      · exact ⟨.error (.plain rfl), rfl, rfl, rfl, rfl⟩
      · refine ⟨.error ?_, rfl, rfl, rfl, rfl⟩
        split
        · exact .plain rfl
        · exact .closedMidLine (.decode buffered)
      · exact ⟨.error (.plain (WireError.quoted?_ofFault fault)), rfl, rfl, rfl, rfl⟩

/-- A line is the same bytes in both encodings. -/
theorem readLine_mirrored : Mirrored SameBytes readLine readLine := by
  -- The bytes are the same, and each side decodes them in its own encoding.
  rw [readLine_eq]
  refine readLineBytes_mirrored.bind fun line _ same => ?_
  subst same
  intro left right readers
  exact ⟨.ok ⟨line, by rw [readers.leftEncoding], by rw [readers.rightEncoding]⟩, readers⟩

/-- Counted bytes are the same in both encodings. -/
theorem readExact_mirrored (length : Nat) : Mirrored Eq (readExact length) (readExact length) := by
  rintro ⟨buffer, source, _⟩ ⟨_, _, _⟩ ⟨rfl, rfl, rfl, rfl⟩
  -- The readers differ in their encodings alone, at which no case looks.
  simp only [readExact]
  split
  · exact ⟨.error (.plain rfl), rfl, rfl, rfl, rfl⟩
  · split
    · exact ⟨.ok rfl, rfl, rfl, rfl, rfl⟩
    · rcases awaitExact source.ending buffer.reverse (length - buffer.length) source.deliveries with
        ⟨bytes, rest, behind⟩ | ⟨_ | fault, buffered, behind⟩
      · exact ⟨.ok rfl, rfl, rfl, rfl, rfl⟩
      · exact ⟨.error (.plain rfl), rfl, rfl, rfl, rfl⟩
      · exact ⟨.error (.plain (WireError.quoted?_ofFault fault)), rfl, rfl, rfl, rfl⟩

/-- A status line is the same in both encodings up to the letters of its info. -/
theorem readStatus_mirrored : Mirrored Status.Twins readStatus readStatus :=
  -- Understanding the line mirrors itself, as its word is plain.
  readLine_mirrored.bind fun _ _ same => .ofExcept same.parseLine

/-- The sentinel is found in both encodings or in none. -/
theorem expectSentinel_mirrored : Mirrored Eq expectSentinel expectSentinel := by
  refine readLine_mirrored.bind fun left right same => ?_
  -- The dot is plain, so that either both lines are the sentinel or none is.
  have sentinel := same.eq_plain_iff Line.sentinel_plain
  by_cases last : left = Line.sentinel
  · rw [if_neg (not_not_intro last), if_neg (not_not_intro (sentinel.mp last))]
    exact .pure rfl
  · rw [if_pos last, if_pos (mt sentinel.mpr last)]
    exact .throw (.unexpectedLine same)

/-- Payload lines are as many in both encodings, whatever lines are at hand. -/
theorem readLinesAfter_mirrored {lines lines' : List Text}
    (atHand : List.Forall₂ SameBytes lines lines') :
    Mirrored (List.Forall₂ SameBytes) (readLinesAfter lines) (readLinesAfter lines') := by
  intro left right readers
  -- The induction is on the bytes that are unread, of which every line takes some.
  induction size : left.unread.length using Nat.strongRecOn generalizing lines lines' left right with
  | _ n ih =>
    rw [readLinesAfter_eq, readLinesAfter_eq]
    refine (readLine_mirrored readers).bind fun line line' left' right' read same readers' => ?_
    have shorter := readLine_shortens read
    have sentinel := same.eq_plain_iff Line.sentinel_plain
    by_cases last : line = Line.sentinel
    · simp only [if_pos last, if_pos (sentinel.mp last)]
      exact ⟨.ok (List.rel_reverse atHand), readers'⟩
    · simp only [if_neg last, if_neg (mt sentinel.mpr last)]
      exact ih _ (size ▸ shorter) (.cons same.unstuff atHand) readers' rfl

/-- A step of a transfer is the same in both encodings up to the letters of an error. -/
theorem readChunk_mirrored : Mirrored Chunk.Twins readChunk readChunk := by
  refine readLine_mirrored.bind fun line line' same => ?_
  refine (Mirrored.ofExcept same.parseHeader).bind fun header _ equal => ?_
  subst equal
  -- The first line is a header, the end line, an error line or none of these on both sides.
  cases header with
  | some length =>
    exact (readExact_mirrored length).bind fun bytes _ equal => equal ▸ .pure (.data bytes)
  | none =>
    have endLine := same.eq_plain_iff Chunk.endLine_plain
    by_cases isEnd : line = Chunk.endLine
    · simp only [isEnd, endLine.mp isEnd, if_true]
      exact expectSentinel_mirrored.bind fun _ _ _ => .pure .ended
    · simp only [isEnd, mt endLine.mpr isEnd, if_false]
      have verdicts := same.parseLine
      generalize Status.parseLine line = verdict at verdicts ⊢
      generalize Status.parseLine line' = verdict' at verdicts ⊢
      cases verdicts with
      | error _ => exact .throw (.unexpectedLine same)
      | @ok parts parts' related =>
        obtain ⟨status, info⟩ := parts
        obtain ⟨_, info'⟩ := parts'
        obtain ⟨rfl, infos⟩ := related
        -- Success has no place here in either encoding.
        cases status with
        | ok => exact .throw (.unexpectedLine same)
        | err => exact expectSentinel_mirrored.bind fun _ _ _ => .pure (.aborted infos.ofInfo)

/-- A response that carries lines is the same in both encodings up to letters. -/
theorem readResponse_mirrored : Mirrored Response.Twins readResponse readResponse := by
  -- The statuses are equal, and what differs in the infos stays different.
  refine readStatus_mirrored.bind ?_
  rintro ⟨status, info⟩ ⟨_, info'⟩ ⟨equal, same⟩
  cases equal
  exact (readLinesAfter_mirrored .nil).bind fun _ _ lines => .pure (.of same (.lines lines))

/-- A transfer is the same in both encodings up to letters, whatever chunks are at hand. -/
theorem readTransferAfter_mirrored {info info' : Text} (same : SameBytes info info')
    (chunks : List Bytes) :
    Mirrored Response.Twins (readTransferAfter info chunks) (readTransferAfter info' chunks) := by
  intro left right readers
  -- As with payload lines, every step takes some of the unread bytes.
  induction size : left.unread.length using Nat.strongRecOn generalizing chunks left right with
  | _ n ih =>
    rw [readTransferAfter_eq, readTransferAfter_eq]
    refine (readChunk_mirrored readers).bind fun chunk chunk' left' right' read steps readers' => ?_
    have shorter := readChunk_shortens read
    cases steps with
    | data bytes => exact ih _ (size ▸ shorter) _ readers' rfl
    | ended => exact ⟨.ok (.of same (.binary _)), readers'⟩
    | @aborted e f errors =>
      -- The info is put together anew from the code and the detail.
      have written : ∀ c ∈ Decimal.ofNat e.code.toNat ++ [' '], c.toNat < 0x80 := by
        refine List.forall_mem_append.mpr ⟨fun c member => ?_, by simp⟩
        have := Char.toNat_of_isDigit (Decimal.isDigit_of_mem_ofNat member)
        omega
      have infos : SameBytes e.info f.info := by
        have whole := errors.detail.plain_append written
        unfold DaemonError.info
        rw [← errors.code]
        simpa using whole
      exact ⟨.ok (.of infos (.binary _)), readers'⟩

/-- A response that carries data is the same in both encodings up to letters. -/
theorem readChunkedResponse_mirrored :
    Mirrored Response.Twins readChunkedResponse readChunkedResponse := by
  refine readStatus_mirrored.bind ?_
  rintro ⟨status, info⟩ ⟨_, info'⟩ ⟨equal, same⟩
  cases equal
  -- The status is the same on both sides, so that both go on in the same way.
  cases status with
  | err =>
    exact (readLinesAfter_mirrored .nil).bind fun _ _ lines => .pure (.of same (.lines lines))
  | ok => exact readTransferAfter_mirrored same []

end Reader

/-- Every request is answered in both encodings alike, up to letters. -/
theorem ReadRequest.perform_mirrored (request : ReadRequest) :
    Mirrored ReadAnswer.Twins request.perform request.perform := by
  -- One case for each request, with its results put into the common type.
  cases request with
  | line => exact Reader.readLine_mirrored.bind fun _ _ same => .pure (.text same)
  | lineBytes =>
    exact Reader.readLineBytes_mirrored.bind fun bytes _ equal => equal ▸ .pure (.bytes bytes)
  | exact length =>
    exact (Reader.readExact_mirrored length).bind fun bytes _ equal => equal ▸ .pure (.bytes bytes)
  | status =>
    refine Reader.readStatus_mirrored.bind ?_
    rintro ⟨status, info⟩ ⟨_, info'⟩ ⟨equal, same⟩
    cases equal
    exact .pure (.status same)
  | lines => exact (Reader.readLinesAfter_mirrored .nil).bind fun _ _ same => .pure (.lines same)
  | sentinel => exact Reader.expectSentinel_mirrored.bind fun _ _ _ => .pure .sentinel
  | chunk => exact Reader.readChunk_mirrored.bind fun _ _ same => .pure (.chunk same)
  | response => exact Reader.readResponse_mirrored.bind fun _ _ same => .pure (.response same)
  | chunkedResponse =>
    exact Reader.readChunkedResponse_mirrored.bind fun _ _ same => .pure (.response same)

namespace Reader

/-- Readers at the same place give the same answers up to letters. -/
theorem Twins.answers {left right : Reader} (readers : left.Twins right)
    (requests : List ReadRequest) :
    List.Forall₂ (fun one other => Outcomes ReadAnswer.Twins one.1 other.1 ∧ one.2 = other.2)
      (left.answers requests) (right.answers requests) := by
  induction requests generalizing left right with
  | nil => exact .nil
  | cons request later ih =>
    obtain ⟨outcomes, readers'⟩ := request.perform_mirrored readers
    have unread : (request.perform left).2.unread = (request.perform right).2.unread := by
      unfold unread
      rw [readers'.buffer, readers'.source]
    rw [answers_cons, answers_cons]
    -- The readers are at the same place again after the first request.
    exact .cons ⟨outcomes, unread⟩ (ih readers')

/-- The frames that are read from a source do not depend on the encoding, whatever the source brings
and wherever it fails. In ISO-8859-1 and in UTF-8 every request has the same outcome up to letters
and leaves the same bytes unread. -/
theorem answers_latin1_utf8 (source : Source) (requests : List ReadRequest) :
    List.Forall₂ (fun one other => Outcomes ReadAnswer.Twins one.1 other.1 ∧ one.2 = other.2)
      ((ofSource source .latin1).answers requests) ((ofSource source .utf8).answers requests) := by
  -- Before the first request both readers are at the beginning.
  have readers : (ofSource source .latin1).Twins (ofSource source .utf8) := ⟨rfl, rfl, rfl, rfl⟩
  exact readers.answers requests

end Reader
end AmigaRemote
