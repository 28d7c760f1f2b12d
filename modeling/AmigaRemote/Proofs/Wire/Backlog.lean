import AmigaRemote.Proofs.Wire.Conservation
import AmigaRemote.Proofs.Wire.Patience

/-! How much a reader holds. A read brings one piece, and none is begun with too much at hand, so the
other side cannot make a reader hold more than the larger of the two limits and one piece. -/

namespace AmigaRemote

/-- What a wait for a line leaves, if no more was at hand than a line may have. The end of the
source is only asked for in vain. -/
inductive Wait.LineBound (ending : Ending) : Wait LineStop → Prop where
  | complete {line rest : Bytes} {later : List Delivery} (short : rest.length < readSize) :
    LineBound ending (.complete line rest ⟨later, ending⟩)
  | overlong {buffered : Bytes} {later : List Delivery} (exceeds : Line.maxLength < buffered.length)
    (close : buffered.length ≤ Line.maxLength + readSize) :
    LineBound ending (.stopped (.overlong buffered.length) buffered ⟨later, ending⟩)
  | stop {why : Stop} {buffered : Bytes} {source : Source}
    (within : buffered.length ≤ Line.maxLength) :
    LineBound ending (.stopped (.stop why) buffered source)

/-- What a wait for bytes leaves that were asked for in such a number. -/
inductive Wait.BytesBound (ending : Ending) (length : Nat) : Wait Stop → Prop where
  | complete {bytes rest : Bytes} {later : List Delivery} (short : rest.length < readSize) :
    BytesBound ending length (.complete bytes rest ⟨later, ending⟩)
  | stop {why : Stop} {buffered : Bytes} {source : Source} (few : buffered.length < length) :
    BytesBound ending length (.stopped why buffered source)

/-- A wait for a line goes on only while what is at hand is within the limit. -/
theorem awaitLine_bound {ending : Ending} {seen : Bytes} {count : Nat} {deliveries : List Delivery}
    (counted : count = seen.length) (fits : count ≤ Line.maxLength) :
    (awaitLine ending seen count deliveries).LineBound ending := by
  have within : seen.reverse.length ≤ Line.maxLength := by
    rw [List.length_reverse, ← counted]
    exact fits
  -- The induction is on the deliveries, with what they add to the bytes at hand.
  induction deliveries generalizing seen count with
  | nil => exact .stop within
  | cons delivery later ih =>
    cases delivery with
    | fault fault =>
      simp only [awaitLine]
      split
      · exact ih counted fits within
      · exact .stop within
    | bytes piece small =>
      cases piece with
      | nil => exact .stop within
      | cons b bs =>
        simp only [awaitLine]
        split
        · -- What follows the line end is less than the piece.
          rename_i line rest cut
          refine .complete ?_
          rw [cutLine?_eq_some cut, List.length_append, List.length_cons] at small
          omega
        · have grown : count + (b :: bs).length = ((b :: bs).reverse ++ seen).reverse.length := by
            rw [List.length_reverse, List.length_append, List.length_reverse, counted, Nat.add_comm]
          split
          · rename_i exceeds
            rw [grown] at exceeds ⊢
            refine .overlong exceeds ?_
            rw [← grown]
            omega
          · rename_i more
            rw [List.length_reverse] at grown
            have fits' := Nat.le_of_not_lt more
            refine ih grown fits' ?_
            rw [List.length_reverse, ← grown]
            exact fits'

/-- A wait for bytes goes on only while some are missing. -/
theorem awaitExact_bound {ending : Ending} {seen : Bytes} {missing : Nat}
    {deliveries : List Delivery} (some : 0 < missing) :
    (awaitExact ending seen missing deliveries).BytesBound ending (seen.length + missing) := by
  have few : seen.reverse.length < seen.length + missing := by
    rw [List.length_reverse]
    omega
  induction deliveries generalizing seen missing with
  | nil => exact .stop few
  | cons delivery later ih =>
    cases delivery with
    | fault fault =>
      simp only [awaitExact]
      split
      · exact ih some few
      · exact .stop few
    | bytes piece small =>
      cases piece with
      | nil => exact .stop few
      | cons b bs =>
        simp only [awaitExact]
        split
        · -- At least one byte of the piece was missing.
          refine .complete ?_
          rw [List.length_drop]
          omega
        · rename_i lacks
          have same : ((b :: bs).reverse ++ seen).length + (missing - (b :: bs).length)
              = seen.length + missing := by
            rw [List.length_append, List.length_reverse]
            omega
          rw [← same]
          refine ih (by omega) ?_
          rw [List.length_reverse]
          omega

namespace Reader

/-- What a reading of a line leaves of a reader. -/
inductive LineLeft (r : Reader) : Except WireError Bytes → Reader → Prop where
  /-- The line is taken from what was at hand, or from the last piece. -/
  | taken {line : Bytes} {after : Reader} (asked : after.source.ending = r.source.ending)
    (less : after.buffer.length ≤ r.buffer.length ∨ after.buffer.length < readSize) :
    LineLeft r (.ok line) after
  /-- The line is too long, and what there is of it is still at hand. -/
  | overlong {after : Reader} (asked : after.source.ending = r.source.ending)
    (free : Line.feed ∉ after.buffer) (exceeds : Line.maxLength < after.buffer.length)
    (close : after.buffer.length ≤ r.buffer.length ∨
      after.buffer.length ≤ Line.maxLength + readSize) :
    LineLeft r (.error (.lineTooLong after.buffer.length Line.maxLength)) after
  /-- No more bytes came. -/
  | stop {e : WireError} {after : Reader} (other : tooLong (.error e : Except WireError Bytes) = false)
    (within : after.buffer.length ≤ Line.maxLength) : LineLeft r (.error e) after

/-- What a reading of so many bytes leaves of a reader. -/
inductive BytesLeft (length : Nat) (r : Reader) : Except WireError Bytes → Reader → Prop where
  /-- The bytes are refused, or taken from what was at hand, or from the last piece. -/
  | settled {outcome : Except WireError Bytes} {after : Reader}
    (asked : after.source.ending = r.source.ending)
    (less : after.buffer.length ≤ r.buffer.length ∨ after.buffer.length < readSize) :
    BytesLeft length r outcome after
  /-- No more bytes came. -/
  | stop {e : WireError} {after : Reader} (small : length ≤ Chunk.maxSize)
    (few : after.buffer.length < length) : BytesLeft length r (.error e) after

/-- A failure of the transport is no line that is too long. -/
theorem tooLong_ofFault (fault : Fault) :
    tooLong (.error (.ofFault fault) : Except WireError Bytes) = false := by
  -- No kind of fault is turned into a line that is too long.
  unfold WireError.ofFault
  cases fault.kind <;> rfl

/-- A line is taken, or given up for its length, or does not come. -/
theorem readLineBytes_left (r : Reader) : LineLeft r (readLineBytes r).1 (readLineBytes r).2 := by
  -- The line is at hand, or it is waited for, or what is at hand is too long already.
  rcases cut : cutLine? r.buffer with _ | ⟨line, rest⟩
  · have free := cutLine?_eq_none_iff.mp cut
    rcases Nat.lt_or_ge Line.maxLength r.buffer.length with long | fits
    · rw [readLineBytes_of_long free long]
      exact .overlong rfl free long (.inl (Nat.le_refl _))
    · rw [readLineBytes_of_free free fits]
      have bound := @awaitLine_bound r.source.ending r.buffer.reverse r.buffer.length
        r.source.deliveries List.length_reverse.symm fits
      generalize waited : awaitLine _ _ _ _ = wait at bound
      cases bound with
      | complete short => exact .taken rfl (.inr short)
      | @overlong buffered later exceeds close =>
        have free' := (awaitLine_stopped waited).2.2 (by simpa using free)
        exact @LineLeft.overlong r (r.resume buffered ⟨later, _⟩) rfl free' exceeds (.inr close)
      | @stop why buffered source within =>
        -- The transport fails, or it is closed with the rest of a line at hand.
        cases why with
        | fault fault => exact .stop (tooLong_ofFault fault) within
        | closed =>
          refine .stop ?_ (Nat.zero_le _)
          split <;> rfl
  · rw [readLineBytes_of_cut cut]
    refine .taken rfl (.inl ?_)
    rw [cutLine?_eq_some cut, List.length_append, List.length_cons]
    change rest.length ≤ _
    omega

/-- Bytes are refused, or taken, or do not come. -/
theorem readExact_left (length : Nat) (r : Reader) :
    BytesLeft length r (readExact length r).1 (readExact length r).2 := by
  -- Too many bytes are refused; otherwise they are at hand or have to be waited for.
  rcases Nat.lt_or_ge Chunk.maxSize length with large | small
  · rw [readExact_of_large large]
    exact .settled rfl (.inl (Nat.le_refl _))
  · rcases Nat.lt_or_ge r.buffer.length length with few | enough
    · rw [readExact_of_few small few]
      have bound := @awaitExact_bound r.source.ending r.buffer.reverse (length - r.buffer.length)
        r.source.deliveries (Nat.sub_pos_of_lt few)
      rw [List.length_reverse, Nat.add_sub_cancel' (Nat.le_of_lt few)] at bound
      generalize awaitExact _ _ _ _ = wait at bound
      cases bound with
      | complete short => exact .settled rfl (.inr short)
      | @stop why buffered source lacks =>
        cases why with
        | fault fault => exact .stop small lacks
        | closed => exact .stop small (Nat.zero_lt_of_lt lacks)
    · rw [readExact_of_enough small enough]
      refine .settled rfl (.inl ?_)
      exact Nat.le_trans (Nat.le_of_eq List.length_drop) (Nat.sub_le _ _)

/-- No reading leaves a reader with as much as a chunk may have. -/
theorem modest_preserved : Preserved fun r => r.buffer.length < Chunk.maxSize where
  line := fun r modest => by
    have left := readLineBytes_left r
    have smaller : Line.maxLength + readSize < Chunk.maxSize := by decide
    -- Only the reader matters here, whatever became of the line.
    generalize (readLineBytes r).1 = outcome, (readLineBytes r).2 = after at left ⊢
    cases left with
    | taken _ less => omega
    | overlong _ _ _ close => omega
    | stop _ within => omega
  bytes := fun length r modest => by
    have left := readExact_left length r
    have smaller : readSize < Chunk.maxSize := by decide
    generalize (readExact length r).1 = outcome, (readExact length r).2 = after at left ⊢
    cases left with
    | settled _ less => omega
    | stop small few => omega

/-- The reader with nothing known to come behind such deliveries. -/
def upTo (front : List Delivery) (r : Reader) : Reader :=
  { r with source := ⟨front, .unknown⟩ }

/-- What is at hand when a reading begins a read behind such deliveries, if it begins one there. It
is what the reading leaves where it asks for more than they bring. -/
def heldAt? {α : Type} (r : Reader) (reading : Reading α) (front : List Delivery) : Option Bytes :=
  let left := (reading (r.upTo front)).2
  if left.source.ending = .starved then some left.buffer else none

variable {α : Type} {reading : Reading α} {r : Reader} {front later : List Delivery} {held : Bytes}

/-- A read is begun exactly if the reading lacks what it would bring. -/
theorem heldAt?_eq_some : r.heldAt? reading front = some held ↔
    (reading (r.upTo front)).2.source.ending = .starved ∧ (reading (r.upTo front)).2.buffer = held := by
  -- The two conditions are those of the definition.
  simp only [heldAt?, Option.ite_none_right_eq_some, Option.some.injEq]

/-- What a reading takes behind deliveries it takes by a read that it begins there. -/
theorem left_of_heldAt? (patient : Patient reading) (parts : r.source.deliveries = front ++ later)
    (none : r.heldAt? reading front = none) : later <:+ (reading r).2.source.deliveries := by
  have whole : (r.upTo front).grow later r.source.ending = r := by
    obtain ⟨buffer, ⟨deliveries, ending⟩, encoding⟩ := r
    obtain rfl : deliveries = front ++ later := parts
    rfl
  rcases patient.foreseen (r.upTo front) rfl with starved | ⟨_, same⟩
  · -- Otherwise a read would have been begun.
    rw [heldAt?_eq_some.mpr ⟨starved, rfl⟩] at none
    cases none
  · have same := same later r.source.ending
    rw [show Growing.grow later r.source.ending (r.upTo front) = r from whole] at same
    rw [same]
    exact List.suffix_append _ _

/-- The bytes of a line are read for only while no more are at hand than a line may have. -/
theorem readLineBytes_heldAt? (begun : r.heldAt? readLineBytes front = some held) :
    held.length ≤ Line.maxLength := by
  obtain ⟨starved, rfl⟩ := heldAt?_eq_some.mp begun
  -- The reading that began did not settle, so that of the three outcomes only the last is left.
  have left := readLineBytes_left (r.upTo front)
  generalize (readLineBytes (r.upTo front)).1 = outcome,
    (readLineBytes (r.upTo front)).2 = after at left starved ⊢
  cases left with
  | taken asked =>
    rw [asked] at starved
    cases starved
  | overlong asked =>
    rw [asked] at starved
    cases starved
  | stop _ within => exact within

/-- A line in two pieces takes two reads, the second with the first piece at hand. -/
example :
    let r := ofSource ⟨[.bytes [97] (by decide), .bytes [98, 10] (by decide)], .closed⟩ .latin1
    [0, 1, 2].map (fun count => r.heldAt? readLineBytes (r.source.deliveries.take count))
      = [some [], some [97], none] := by
  decide

/-- Bytes are read for only while some of them are missing, and not at all if they are too many. -/
theorem readExact_heldAt? {length : Nat} (begun : r.heldAt? (readExact length) front = some held) :
    held.length < length ∧ length ≤ Chunk.maxSize := by
  obtain ⟨starved, rfl⟩ := heldAt?_eq_some.mp begun
  -- As for a line.
  have left := readExact_left length (r.upTo front)
  generalize (readExact length (r.upTo front)).1 = outcome,
    (readExact length (r.upTo front)).2 = after at left starved ⊢
  cases left with
  | settled asked =>
    rw [asked] at starved
    cases starved
  | stop small few => exact ⟨few, small⟩

/-- A line is read for as its bytes are. -/
theorem readLine_heldAt? : r.heldAt? readLine front = r.heldAt? readLineBytes front := by
  -- To decode the bytes of a line changes nothing of the reader.
  have same : (readLine (r.upTo front)).2 = (readLineBytes (r.upTo front)).2 := by
    rw [readLine_eq]
    exact Step.bind_still _ (fun _ => .bind .get fun _ => .pure _) _
  simp only [heldAt?, same]

/-- A reader with the beginning of a line that is too long. -/
structure Stuck (r : Reader) : Prop where
  free : Line.feed ∉ r.buffer
  exceeds : Line.maxLength < r.buffer.length

/-- The failure of every reading of a line from a reader that is stuck. -/
def glut (r : Reader) : WireError :=
  .lineTooLong r.buffer.length Line.maxLength

/-- No line is read from a reader that is stuck. -/
theorem Stuck.readLine (stuck : Stuck r) : readLine r = (.error r.glut, r) := by
  -- The buffer holds a line too long and no line feed, so that the reading is given up at once.
  rw [readLine_eq, Step.bind_error (readLineBytes_of_long stuck.free stuck.exceeds)]
  rfl

/-- No payload lines are read from a reader that is stuck. -/
theorem Stuck.readLines (stuck : Stuck r) : readLines r = (.error r.glut, r) := by
  -- The payload begins with a line, at which it is given up.
  rw [Reader.readLines, readLinesAfter_eq]
  exact Step.bind_error stuck.readLine _

end Reader

/-- A reading that gives a line up for its length only where it leaves the reader stuck with it. -/
def GivesUpStuck {α : Type} (reading : Reading α) : Prop :=
  ∀ ⦃r after : Reader⦄ ⦃size limit : Nat⦄, reading r = (.error (.lineTooLong size limit), after) →
    after.Stuck ∧ .lineTooLong size limit = after.glut

namespace Reader

/-- A line is given up where the reader is stuck. -/
theorem readLineBytes_givesUpStuck : GivesUpStuck readLineBytes := by
  intro r after size limit failed
  -- Of the ways in which a line is left, only the overlong one fails so.
  have left := readLineBytes_left r
  simp only [failed] at left
  cases left with
  | overlong _ free exceeds _ => exact ⟨⟨free, exceeds⟩, rfl⟩
  | stop other => cases other

/-- Bytes are not given up for the length of a line. -/
theorem readExact_givesUpStuck (length : Nat) : GivesUpStuck (readExact length) := by
  intro r after size limit failed
  -- Bytes fail because they are too many, or with a fault, and neither is a line.
  simp only [readExact] at failed
  split at failed
  · cases failed
  · split at failed
    · cases failed
    · split at failed
      · cases failed
      · rename_i fault _ _ _
        have other := tooLong_ofFault fault
        rw [Except.error.inj (Prod.mk.inj failed).1] at other
        cases other
      · cases failed

/-- No line is given up but by a reader that it leaves stuck. -/
theorem givesUpStuck_explained : Explained fun e after =>
    ∀ size limit, e = .lineTooLong size limit →
      after.Stuck ∧ .lineTooLong size limit = after.glut where
  -- A line that was read is none that was given up, whatever place it has.
  line := fun _ _ _ failed size limit same => readLineBytes_givesUpStuck (same ▸ failed)
  bytes := fun length _ _ _ failed size limit same =>
    readExact_givesUpStuck length (same ▸ failed)
  misread := fun _ misread size limit same => by
    rw [same] at misread
    cases misread

end Reader

namespace ReadRequest

/-- Whether a request is for a number of bytes. -/
def isExact : ReadRequest → Bool
  | exact _ => true
  | _ => false

/-- No request changes what every reading keeps. -/
theorem perform_keeps {property : Reader → Prop} (preserved : Reader.Preserved property)
    (request : ReadRequest) : Step.Keeps property request.perform := by
  -- One case for each request, which is a reading with its result put into a common type.
  cases request with
  | line => exact preserved.readLine.bind fun _ => .pure _
  | lineBytes => exact preserved.line.bind fun _ => .pure _
  | exact length => exact (preserved.bytes length).bind fun _ => .pure _
  | status => exact preserved.readStatus.bind fun _ => .pure _
  | lines => exact (preserved.readLinesAfter []).bind fun _ => .pure _
  | sentinel => exact preserved.expectSentinel.bind fun _ => .pure _
  | chunk => exact preserved.readChunk.bind fun _ => .pure _
  | response => exact preserved.readResponse.bind fun _ => .pure _
  | chunkedResponse => exact preserved.readChunkedResponse.bind fun _ => .pure _

/-- Every request is patient. -/
theorem perform_patient (request : ReadRequest) : Patient request.perform := by
  -- A reading stays patient where its result is only put into the common type.
  cases request with
  | line => exact Reader.readLine_patient.bind fun _ => .pure _
  | lineBytes => exact Reader.readLineBytes_patient.bind fun _ => .pure _
  | exact length => exact (Reader.readExact_patient length).bind fun _ => .pure _
  | status => exact Reader.readStatus_patient.bind fun _ => .pure _
  | lines => exact (Reader.readLinesAfter_patient []).bind fun _ => .pure _
  | sentinel => exact Reader.expectSentinel_patient.bind fun _ => .pure _
  | chunk => exact Reader.readChunk_patient.bind fun _ => .pure _
  | response => exact Reader.readResponse_patient.bind fun _ => .pure _
  | chunkedResponse => exact Reader.readChunkedResponse_patient.bind fun _ => .pure _

/-- Every request fails as the readings do that it is made of. -/
theorem perform_explained {kind : WireError → Reader → Prop} (explained : Reader.Explained kind)
    (request : ReadRequest) : FailsWith kind request.perform := by
  -- To put a result into the common type does not fail.
  cases request with
  | line => exact explained.readLine.bind fun _ => .pure _
  | lineBytes => exact explained.line.bind fun _ => .pure _
  | exact length => exact (explained.bytes length).bind fun _ => .pure _
  | status => exact explained.readStatus.bind fun _ => .pure _
  | lines => exact (explained.readLine.readLinesAfter []).bind fun _ => .pure _
  | sentinel => exact explained.expectSentinel.bind fun _ => .pure _
  | chunk => exact explained.readChunk.bind fun _ => .pure _
  | response => exact explained.readResponse.bind fun _ => .pure _
  | chunkedResponse => exact explained.readChunkedResponse.bind fun _ => .pure _

/-- Every request gives a line up only where it leaves the reader stuck. -/
theorem perform_givesUpStuck (request : ReadRequest) : GivesUpStuck request.perform :=
  -- The failure is that of one of its readings.
  fun _ _ size limit failed =>
    request.perform_explained Reader.givesUpStuck_explained failed size limit rfl

/-- Every request but one for bytes fails at the line that a stuck reader begins with, and changes
nothing. -/
theorem perform_stuck {request : ReadRequest} {r : Reader} (stuck : r.Stuck)
    (other : request.isExact = false) : request.perform r = (.error r.glut, r) := by
  -- The requests that do not begin with bytes begin with a line, or with a status line.
  have line := stuck.readLine
  have status : Reader.readStatus r = (.error r.glut, r) := Step.bind_error line _
  cases request with
  | line => exact Step.bind_error line _
  | lineBytes => exact Step.bind_error (Reader.readLineBytes_of_long stuck.free stuck.exceeds) _
  | exact length => cases other
  | status => exact Step.bind_error status _
  | lines => exact Step.bind_error stuck.readLines _
  | sentinel => exact Step.bind_error (Step.bind_error line _) _
  | chunk => exact Step.bind_error (Step.bind_error line _) _
  | response => exact Step.bind_error (Step.bind_error status _) _
  | chunkedResponse => exact Step.bind_error (Step.bind_error status _) _

end ReadRequest

namespace Reader

/-- What requests leave of a reader. Each is made whatever became of those before it. -/
def afterAll (requests : List ReadRequest) (r : Reader) : Reader :=
  requests.foldl (fun r request => (request.perform r).2) r

/-- Requests keep what every reading keeps. -/
theorem afterAll_keeps {property : Reader → Prop} (preserved : Preserved property)
    (requests : List ReadRequest) {r : Reader} (holds : property r) :
    property (r.afterAll requests) := by
  -- By induction on the requests.
  induction requests generalizing r with
  | nil => exact holds
  | cons request later ih => exact ih (request.perform_keeps preserved holds)

/-- No requests but those for bytes change a reader that is stuck. -/
theorem Stuck.afterAll {r : Reader} (stuck : r.Stuck) {requests : List ReadRequest}
    (others : ∀ other ∈ requests, other.isExact = false) : r.afterAll requests = r := by
  -- By induction on the requests, each of which leaves the reader as it is.
  induction requests with
  | nil => rfl
  | cons request later ih =>
    rw [List.forall_mem_cons] at others
    rw [Reader.afterAll, List.foldl_cons, ReadRequest.perform_stuck stuck others.1]
    exact ih others.2

/-- A reader that the other side cannot make hold more than a chunk and one read. -/
structure Restrained (r : Reader) : Prop where
  /-- So much is at hand between requests. -/
  between : r.buffer.length ≤ Chunk.maxSize + (readSize - 1)
  /-- So much is at hand within a request, whatever a read brings that it begins. -/
  within : ∀ request front held, r.heldAt? (ReadRequest.perform request) front = some held →
    ∀ piece : Bytes, piece.length ≤ readSize →
      (held ++ piece).length ≤ Chunk.maxSize + (readSize - 1)
  /-- Nothing is taken but by these reads. -/
  taken : ∀ request front later, r.source.deliveries = front ++ later →
    r.heldAt? (ReadRequest.perform request) front = none →
      later <:+ (request.perform r).2.source.deliveries
  /-- A line that was given up for its length is given up again by all requests but those for bytes,
  which begin no read. -/
  given : ∀ request size limit after,
    ReadRequest.perform request r = (.error (.lineTooLong size limit), after) →
      ∀ requests : List ReadRequest, (∀ other ∈ requests, other.isExact = false) →
        ∀ other : ReadRequest, other.isExact = false →
          other.perform (after.afterAll requests) = (.error (.lineTooLong size limit), after) ∧
          ∀ front, (after.afterAll requests).heldAt? other.perform front = none

/-- No source makes a reader hold more than a chunk and one read, whatever is asked of it and
whatever fails. No read for a line is begun with more at hand than a line may have, and none for
bytes with all of them at hand or for too many. -/
theorem backlog_bounded (source : Source) (encoding : Encoding) (requests : List ReadRequest) :
    ((ofSource source encoding).afterAll requests).Restrained ∧
    (∀ (r : Reader) (front : List Delivery) (held : Bytes),
      (r.heldAt? readLine front = some held ∨ r.heldAt? readLineBytes front = some held) →
        held.length ≤ Line.maxLength) ∧
    ∀ (r : Reader) (length : Nat) (front : List Delivery) (held : Bytes),
      r.heldAt? (readExact length) front = some held →
        held.length < length ∧ length ≤ Chunk.maxSize := by
  -- Before the first request nothing is at hand.
  have modest := afterAll_keeps modest_preserved requests (r := ofSource source encoding)
    (by change 0 < Chunk.maxSize; decide)
  generalize (ofSource source encoding).afterAll requests = r at modest ⊢
  refine ⟨⟨?_, ?_, ?_, ?_⟩, ?_, fun _ _ _ _ => readExact_heldAt?⟩
  · exact Nat.le_trans (Nat.le_of_lt modest) (Nat.le_add_right _ _)
  · intro request front held begun piece fits
    obtain ⟨_, rfl⟩ := heldAt?_eq_some.mp begun
    -- What is at hand at a read is what the request would leave without it.
    have few := request.perform_keeps modest_preserved (s := r.upTo front) modest
    have some : 0 < readSize := by decide
    rw [List.length_append]
    omega
  · intro request front later parts none
    exact left_of_heldAt? request.perform_patient parts none
  · intro request size limit after failed others known other isOther
    obtain ⟨stuck, same⟩ := request.perform_givesUpStuck failed
    rw [stuck.afterAll known, same]
    refine ⟨ReadRequest.perform_stuck stuck isOther, fun front => ?_⟩
    -- Without the rest of the source the reader is as stuck, and asks for nothing.
    have stuck' : (after.upTo front).Stuck := ⟨stuck.free, stuck.exceeds⟩
    rw [heldAt?, ReadRequest.perform_stuck stuck' isOther]
    rfl
  · rintro r front held (begun | begun)
    · exact readLineBytes_heldAt? (readLine_heldAt? ▸ begun)
    · exact readLineBytes_heldAt? begun

end Reader
end AmigaRemote
