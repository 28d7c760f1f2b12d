import AmigaRemote.Proofs.Wire.Ending
import AmigaRemote.Proofs.Wire.Fragmentation

/-! A reading that does not ask for bytes that have not arrived gives the same, and leaves the same,
whatever arrives later. -/

namespace AmigaRemote

/-- A source to which more has arrived. -/
def Source.grow (arrived : List Delivery) (ending : Ending) (s : Source) : Source :=
  ⟨s.deliveries ++ arrived, ending⟩

/-- A reader to whose source more has arrived. -/
def Reader.grow (arrived : List Delivery) (ending : Ending) (r : Reader) : Reader :=
  { r with source := r.source.grow arrived ending }

/-- A state that reads, and to which more may arrive. -/
class Growing (σ : Type) where
  reader : σ → Reader
  grow (arrived : List Delivery) (ending : Ending) : σ → σ

instance : Growing Reader where
  reader := id
  grow := Reader.grow

namespace Growing

variable {σ : Type} [Growing σ]

/-- It is not known what comes after the bytes that have arrived, and nobody has asked. -/
def Open (s : σ) : Prop :=
  (reader s).source.ending = .unknown

/-- Bytes were asked for that have not arrived. -/
def Starved (s : σ) : Prop :=
  (reader s).source.ending = .starved

end Growing

open Growing (Open Starved grow)

section Judgement

variable {σ ε α β : Type} [Growing σ]

/-- A computation that asks a state for bytes that have not arrived, or else does the same whatever
arrives later. -/
def Foreseen (act : Step σ ε α) (s : σ) : Prop :=
  Starved (act s).2 ∨ Open (act s).2 ∧ ∀ arrived ending,
    act (grow arrived ending s) = ((act s).1, grow arrived ending (act s).2)

/-- A computation of which everything is foreseen as long as nobody has asked for bytes that have not
arrived, and which leaves them missing once they are. -/
structure Patient (act : Step σ ε α) : Prop where
  hungry : Step.Keeps (Starved : σ → Prop) act
  foreseen : ∀ s, Open s → Foreseen act s

/-- A sequence is foreseen if its first part is, and what follows it after each result. -/
theorem Foreseen.bind {x : Step σ ε α} {next : α → Step σ ε β} {s : σ} (first : Foreseen x s)
    (hungry : ∀ a, Step.Keeps (Starved : σ → Prop) (next a))
    (second : ∀ a t, x s = (.ok a, t) → Open t → Foreseen (next a) t) :
    Foreseen (x >>= next) s := by
  rcases found : x s with ⟨e | a, t⟩
  · rw [Foreseen, Step.bind_error found]
    rw [Foreseen, found] at first
    -- Nothing follows a failure, so it is foreseen with the first part.
    rcases first with starved | ⟨isOpen, same⟩
    · exact .inl starved
    · exact .inr ⟨isOpen, fun arrived ending => Step.bind_error (same arrived ending) next⟩
  · rw [Foreseen, Step.bind_ok found]
    rw [Foreseen, found] at first
    rcases first with starved | ⟨isOpen, same⟩
    · exact .inl (hungry a starved)
    · rcases second a t found isOpen with starved | ⟨isOpen', same'⟩
      · exact .inl starved
      · refine .inr ⟨isOpen', fun arrived ending => ?_⟩
        rw [Step.bind_ok (same arrived ending)]
        exact same' arrived ending

namespace Patient

/-- A sequence is patient if each of its parts is. -/
theorem bind {x : Step σ ε α} {next : α → Step σ ε β} (first : Patient x)
    (second : ∀ a, Patient (next a)) : Patient (x >>= next) where
  -- A starved first part leaves the second nothing to read, and an open one hands its readiness on.
  hungry := first.hungry.bind fun a => (second a).hungry
  foreseen := fun s isOpen => (first.foreseen s isOpen).bind (fun a => (second a).hungry)
    fun a t _ isOpen' => (second a).foreseen t isOpen'

/-- What does not read, and does the same with more to read, is patient. -/
theorem of_unread {act : Step σ ε α} (unread : ∀ s, Growing.reader (act s).2 = Growing.reader s)
    (same : ∀ arrived ending s,
      act (grow arrived ending s) = ((act s).1, grow arrived ending (act s).2)) : Patient act where
  -- The reader is the same before and after, so that it is starved or open as it was.
  hungry := fun s starved => by rwa [Starved, unread s]
  foreseen := fun s isOpen =>
    .inr ⟨by rwa [Open, unread s], fun arrived ending => same arrived ending s⟩

/-- A result that is known beforehand is patient. -/
theorem pure (a : α) : Patient (Pure.pure a : Step σ ε α) :=
  -- Nothing is read, and the state is not looked at.
  of_unread (fun _ => rfl) fun _ _ _ => rfl

/-- To give up is patient. -/
theorem throw (e : ε) : Patient (MonadExcept.throw e : Step σ ε α) :=
  -- As for a result.
  of_unread (fun _ => rfl) fun _ _ _ => rfl

/-- A result that may be a failure is patient. -/
theorem ofExcept (result : Except ε α) : Patient (Step.ofExcept result : Step σ ε α) :=
  -- As for either of the two.
  of_unread (fun _ => rfl) fun _ _ _ => rfl

/-- To look at what does not grow is patient. -/
theorem asks {γ : Type} (part : σ → γ) (next : γ → Step σ ε α)
    (fixed : ∀ arrived ending s, part (grow arrived ending s) = part s)
    (patient : ∀ c, Patient (next c)) : Patient (do next (part (← get)) : Step σ ε α) where
  -- The part is fixed, so that what comes next is the same in the grown state.
  hungry := fun s starved => (patient (part s)).hungry starved
  foreseen := fun s isOpen => by
    rcases (patient (part s)).foreseen s isOpen with starved | ⟨isOpen', same⟩
    · exact .inl starved
    · refine .inr ⟨isOpen', fun arrived ending => ?_⟩
      refine .trans ?_ (same arrived ending)
      change next (part (grow arrived ending s)) _ = _
      rw [fixed]

end Patient
end Judgement

/-- A wait to whose source more has arrived. -/
def Wait.grow {ε : Type} (arrived : List Delivery) (ending : Ending) : Wait ε → Wait ε
  | .complete bytes rest source => .complete bytes rest (source.grow arrived ending)
  | .stopped why buffered source => .stopped why buffered (source.grow arrived ending)

/-- A line is waited for in vain, or comes in the same way whatever arrives later. -/
theorem awaitLine_foreseen {seen : Bytes} {count : Nat} (deliveries : List Delivery) :
    (awaitLine .unknown seen count deliveries).source.ending = .starved ∨
      (awaitLine .unknown seen count deliveries).source.ending = .unknown ∧
      ∀ arrived ending, awaitLine ending seen count (deliveries ++ arrived)
        = (awaitLine .unknown seen count deliveries).grow arrived ending := by
  -- By induction on the deliveries: they run out, or the wait is over before they do.
  induction deliveries generalizing seen count with
  | nil => exact .inl rfl
  | cons delivery later ih =>
    cases delivery with
    | fault fault =>
      simp only [awaitLine, List.cons_append]
      split
      · exact ih
      · exact .inr ⟨rfl, fun _ _ => rfl⟩
    | bytes piece fits =>
      cases piece with
      | nil => exact .inr ⟨rfl, fun _ _ => rfl⟩
      | cons b bs =>
        simp only [awaitLine, List.cons_append]
        split
        · exact .inr ⟨rfl, fun _ _ => rfl⟩
        · split
          · exact .inr ⟨rfl, fun _ _ => rfl⟩
          · exact ih

/-- Bytes are waited for in vain, or come in the same way whatever arrives later. -/
theorem awaitExact_foreseen {seen : Bytes} {missing : Nat} (deliveries : List Delivery) :
    (awaitExact .unknown seen missing deliveries).source.ending = .starved ∨
      (awaitExact .unknown seen missing deliveries).source.ending = .unknown ∧
      ∀ arrived ending, awaitExact ending seen missing (deliveries ++ arrived)
        = (awaitExact .unknown seen missing deliveries).grow arrived ending := by
  -- By induction as for a line, with the missing bytes counted down.
  induction deliveries generalizing seen missing with
  | nil => exact .inl rfl
  | cons delivery later ih =>
    cases delivery with
    | fault fault =>
      simp only [awaitExact, List.cons_append]
      split
      · exact ih
      · exact .inr ⟨rfl, fun _ _ => rfl⟩
    | bytes piece fits =>
      cases piece with
      | nil => exact .inr ⟨rfl, fun _ _ => rfl⟩
      | cons b bs =>
        simp only [awaitExact, List.cons_append]
        split
        · exact .inr ⟨rfl, fun _ _ => rfl⟩
        · exact ih

namespace Reader

/-- No reading brings what is missing. -/
theorem starved_preserved : Preserved fun r => r.source.ending = .starved where
  -- A known end stays, and to be starved is one.
  line := readLineBytes_ending rfl
  bytes := readExact_ending rfl

/-- What a wait for a line makes of a reader does not depend on what arrives later. -/
theorem lineAfter_grow (arrived : List Delivery) (ending : Ending) (r : Reader)
    (wait : Wait LineStop) :
    (r.grow arrived ending).lineAfter (wait.grow arrived ending)
      = ((r.lineAfter wait).1, (r.lineAfter wait).2.grow arrived ending) := by
  -- The wait is complete or stopped in one of three ways.
  rcases wait with _ | ⟨_ | _ | _, _, _⟩
  all_goals rfl

/-- What a wait for bytes makes of a reader does not depend on what arrives later. -/
theorem exactAfter_grow (arrived : List Delivery) (ending : Ending) (length : Nat) (r : Reader)
    (wait : Wait Stop) :
    (r.grow arrived ending).exactAfter length (wait.grow arrived ending)
      = ((r.exactAfter length wait).1, (r.exactAfter length wait).2.grow arrived ending) := by
  -- As above, with two ways to be stopped.
  rcases wait with _ | ⟨_ | _, _, _⟩
  all_goals rfl

/-- A reader has what a wait for a line left of its source. -/
theorem lineAfter_source (r : Reader) (wait : Wait LineStop) :
    (r.lineAfter wait).2.source = wait.source := by
  -- Whatever the wait has become, its source is taken over.
  rcases wait with _ | ⟨_ | _ | _, _, _⟩
  all_goals rfl

/-- A reader has what a wait for bytes left of its source. -/
theorem exactAfter_source (length : Nat) (r : Reader) (wait : Wait Stop) :
    (r.exactAfter length wait).2.source = wait.source := by
  -- As for a line.
  rcases wait with _ | ⟨_ | _, _, _⟩
  all_goals rfl

/-- The bytes of a line are read patiently. -/
theorem readLineBytes_patient : Patient readLineBytes where
  hungry := starved_preserved.line
  foreseen := fun r isOpen => by
    rcases cut : cutLine? r.buffer with _ | ⟨line, rest⟩
    · have free := cutLine?_eq_none_iff.mp cut
      rcases Nat.lt_or_ge Line.maxLength r.buffer.length with long | fits
      · rw [Foreseen, readLineBytes_of_long free long]
        exact .inr ⟨isOpen, fun arrived ending => readLineBytes_of_long free long⟩
      · -- Only now is anything waited for.
        have waits := @awaitLine_foreseen r.buffer.reverse r.buffer.length r.source.deliveries
        rw [Foreseen, Starved, Open, readLineBytes_of_free free fits]
        have known : r.source.ending = .unknown := isOpen
        rw [known]
        refine waits.imp (fun starved => ?_) fun ⟨isOpen', same⟩ => ⟨?_, fun arrived ending => ?_⟩
        · exact (congrArg Source.ending (lineAfter_source ..)).trans starved
        · exact (congrArg Source.ending (lineAfter_source ..)).trans isOpen'
        · refine (@readLineBytes_of_free (r.grow arrived ending) free fits).trans ?_
          exact (congrArg _ (same arrived ending)).trans (lineAfter_grow ..)
    · rw [Foreseen, readLineBytes_of_cut cut]
      exact .inr ⟨isOpen, fun arrived ending => readLineBytes_of_cut cut⟩

/-- Bytes are read patiently. -/
theorem readExact_patient (length : Nat) : Patient (readExact length) where
  -- Too many bytes are refused, and bytes at hand are taken, without a wait in either case.
  hungry := starved_preserved.bytes length
  foreseen := fun r isOpen => by
    rcases Nat.lt_or_ge Chunk.maxSize length with large | small
    · rw [Foreseen, readExact_of_large large]
      exact .inr ⟨isOpen, fun arrived ending => readExact_of_large large⟩
    · rcases Nat.lt_or_ge r.buffer.length length with few | enough
      -- For the others there is a wait, whose foresight is that of the reading.
      · have waits := @awaitExact_foreseen r.buffer.reverse (length - r.buffer.length)
          r.source.deliveries
        rw [Foreseen, Starved, Open, readExact_of_few small few]
        have known : r.source.ending = .unknown := isOpen
        rw [known]
        refine waits.imp (fun starved => ?_) fun ⟨isOpen', same⟩ => ⟨?_, fun arrived ending => ?_⟩
        · exact (congrArg Source.ending (exactAfter_source ..)).trans starved
        · exact (congrArg Source.ending (exactAfter_source ..)).trans isOpen'
        · refine (@readExact_of_few (r.grow arrived ending) length small few).trans ?_
          exact (congrArg _ (same arrived ending)).trans (exactAfter_grow ..)
      · rw [Foreseen, readExact_of_enough small enough]
        exact .inr ⟨isOpen, fun arrived ending => readExact_of_enough small enough⟩

/-- A line is read patiently. -/
theorem readLine_patient : Patient readLine := by
  -- The bytes are waited for, and the encoding with which they are decoded does not grow.
  rw [readLine_eq]
  refine readLineBytes_patient.bind fun line => ?_
  exact .asks encoding (fun encoding => return encoding.decode line) (fun _ _ _ => rfl) fun _ => .pure _

/-- A status line is read patiently. -/
theorem readStatus_patient : Patient readStatus :=
  -- The line is waited for, and no more.
  readLine_patient.bind fun _ => .ofExcept _

/-- The sentinel is read patiently. -/
theorem expectSentinel_patient : Patient expectSentinel := by
  -- The same line is compared, and nothing more is read.
  refine readLine_patient.bind fun line => ?_
  split
  · exact .throw _
  · exact .pure _

/-- Payload lines are read patiently, whatever lines are at hand. -/
theorem readLinesAfter_patient (lines : List Text) : Patient (readLinesAfter lines) where
  hungry := starved_preserved.readLinesAfter lines
  foreseen := fun r isOpen => by
    -- The induction is on the bytes that are unread, of which every line takes some.
    induction size : r.unread.length using Nat.strongRecOn generalizing lines r with
    | _ n ih =>
      rw [readLinesAfter_eq]
      refine (readLine_patient.foreseen r isOpen).bind (fun line => ?_) fun line next read isOpen' => ?_
      · intro r starved
        dsimp only
        split
        · exact starved
        · exact starved_preserved.readLinesAfter _ starved
      · have shorter := readLine_shortens read
        by_cases last : line = Line.sentinel
        · simp only [if_pos last]
          exact .inr ⟨isOpen', fun _ _ => rfl⟩
        · simp only [if_neg last]
          exact ih _ (size ▸ shorter) _ _ isOpen' rfl

/-- A response that carries lines is read patiently. -/
theorem readResponse_patient : Patient readResponse :=
  -- Its parts are read one after the other.
  readStatus_patient.bind fun _ => (readLinesAfter_patient []).bind fun _ => .pure _

/-- A step of a transfer is read patiently. -/
theorem readChunk_patient : Patient readChunk := by
  -- The header is read first, and it fixes what is read next.
  refine readLine_patient.bind fun line => (Patient.ofExcept _).bind fun header => ?_
  cases header with
  | some length => exact (readExact_patient length).bind fun _ => .pure _
  | none =>
    by_cases isEnd : line = Chunk.endLine
    · simp only [isEnd, if_true]
      exact expectSentinel_patient.bind fun _ => .pure _
    · simp only [isEnd, if_false]
      split
      · exact expectSentinel_patient.bind fun _ => .pure _
      · exact .throw _

/-- A transfer is read patiently. -/
theorem readTransferAfter_patient (info : Text) (chunks : List Bytes) :
    Patient (readTransferAfter info chunks) where
  hungry := starved_preserved.readTransferAfter info chunks
  foreseen := fun r isOpen => by
    -- As with payload lines, every step takes some of the unread bytes.
    induction size : r.unread.length using Nat.strongRecOn generalizing chunks r with
    | _ n ih =>
      rw [readTransferAfter_eq]
      refine (readChunk_patient.foreseen r isOpen).bind (fun chunk => ?_)
        fun chunk next read isOpen' => ?_
      · cases chunk with
        | data bytes => exact starved_preserved.readTransferAfter info _
        | ended => exact .pure _
        | aborted e => exact .pure _
      · have shorter := readChunk_shortens read
        cases chunk with
        | data bytes => exact ih _ (size ▸ shorter) _ _ isOpen' rfl
        | ended => exact .inr ⟨isOpen', fun _ _ => rfl⟩
        | aborted e => exact .inr ⟨isOpen', fun _ _ => rfl⟩

/-- A response that carries data is read patiently. -/
theorem readChunkedResponse_patient : Patient readChunkedResponse := by
  -- The verdict fixes what is read next.
  refine readStatus_patient.bind fun (status, info) => ?_
  cases status with
  | err => exact (readLinesAfter_patient []).bind fun _ => .pure _
  | ok => exact readTransferAfter_patient info []

end Reader
end AmigaRemote
