import AmigaRemote.Proofs.Wire.Conservation
import AmigaRemote.Proofs.Wire.Ending

/-! A read that fails because the transport does may simply be made again. Reads that are made again
until the transport lets them be give what they would have given without its failures. -/

namespace AmigaRemote

/-- Whether a failure is one of the transport that the stream may survive. -/
def WireError.isPassing : WireError → Bool
  | timeout | transport _ => true
  | _ => false

/-- Only what the transport takes for the end of the stream does not pass. -/
theorem WireError.isPassing_ofFault (fault : Fault) :
    (WireError.ofFault fault).isPassing = decide (fault.kind ≠ .unexpectedEnd) := by
  -- One kind of fault becomes the end of the stream, and the others stay failures.
  unfold ofFault
  cases fault.kind <;> rfl

/-- Whether a delivery is anything but a failure that passes. -/
def Delivery.lasts : Delivery → Bool
  | bytes _ _ => true
  | fault why => decide (why.kind = .unexpectedEnd)

/-- The source without the failures that pass. -/
def Source.calm (s : Source) : Source :=
  { s with deliveries := s.deliveries.filter Delivery.lasts }

/-- The reader on the source without the failures that pass. -/
def Reader.calm (r : Reader) : Reader :=
  { r with source := r.source.calm }

/-- What a wait comes to, with the source behind it without the failures that pass. -/
def Wait.calm {ε : Type} : Wait ε → Wait ε
  | complete bytes rest source => complete bytes rest source.calm
  | stopped why buffered source => stopped why buffered source.calm

section Waits

variable {ending : Ending} {seen buffered : Bytes} {count missing : Nat}
  {deliveries : List Delivery} {why : Fault} {source : Source}

/-- An interruption passes. -/
theorem Delivery.lasts_interrupted (interrupted : why.kind = .interrupted) :
    ¬(Delivery.fault why).lasts = true := by
  -- A delivery lasts if it is no fault or one that ends the stream.
  simp [Delivery.lasts, interrupted]

/-- A wait for a line that is not stopped by a failure that passes comes to the same without any. -/
theorem awaitLine_calm
    (last : ∀ why buffered source,
      awaitLine ending seen count deliveries = .stopped (.stop (.fault why)) buffered source →
        why.kind = .unexpectedEnd) :
    awaitLine ending seen count (deliveries.filter Delivery.lasts)
      = (awaitLine ending seen count deliveries).calm := by
  induction deliveries generalizing seen count with
  | nil => rfl
  | cons delivery later ih =>
    cases delivery with
    | fault fault =>
      simp only [awaitLine] at last ⊢
      by_cases interrupted : fault.kind = .interrupted
      · -- The read would have been repeated, and now need not be.
        simp only [if_pos interrupted] at last ⊢
        rw [List.filter_cons_of_neg (Delivery.lasts_interrupted interrupted)]
        exact ih last
      · simp only [if_neg interrupted] at last ⊢
        have ends : (Delivery.fault fault).lasts = true := decide_eq_true (last _ _ _ rfl)
        rw [List.filter_cons_of_pos ends, awaitLine, if_neg interrupted]
        rfl
    | bytes piece fits =>
      rw [List.filter_cons_of_pos rfl]
      cases piece with
      | nil => rfl
      | cons b bs =>
        simp only [awaitLine] at last ⊢
        split
        · rfl
        · rename_i uncut
          simp only [uncut] at last
          split
          · rfl
          · rename_i fitting
            simp only [if_neg fitting] at last
            exact ih last

/-- A wait for a line that a passing failure stops may be taken up again with the bytes at hand by
then. -/
theorem awaitLine_again (counted : count = seen.length) (fits : count ≤ Line.maxLength)
    (stopped : awaitLine ending seen count deliveries = .stopped (.stop (.fault why)) buffered source)
    (passing : why.kind ≠ .unexpectedEnd) :
    buffered.length ≤ Line.maxLength ∧
      awaitLine ending seen count (deliveries.filter Delivery.lasts)
        = awaitLine source.ending buffered.reverse buffered.length source.calm.deliveries := by
  induction deliveries generalizing seen count with
  | nil =>
    subst counted
    simp only [awaitLine, Wait.stopped.injEq, LineStop.stop.injEq] at stopped
    obtain ⟨silent, rfl, rfl⟩ := stopped
    refine ⟨by simpa using fits, ?_⟩
    -- An end that is waited for in vain is so again.
    cases ending with
    | closed => cases silent
    | silent | unknown | starved =>
      simp [Source.calm, awaitLine, Ending.stop, Ending.afterRead]
  | cons delivery later ih =>
    cases delivery with
    | fault fault =>
      simp only [awaitLine] at stopped
      split at stopped
      · rename_i interrupted
        rw [List.filter_cons_of_neg (Delivery.lasts_interrupted interrupted)]
        exact ih counted fits stopped
      · simp only [Wait.stopped.injEq, LineStop.stop.injEq, Stop.fault.injEq] at stopped
        obtain ⟨rfl, rfl, rfl⟩ := stopped
        have passes : ¬(Delivery.fault fault).lasts = true := by simpa [Delivery.lasts] using passing
        rw [List.filter_cons_of_neg passes, List.reverse_reverse, List.length_reverse, ← counted]
        exact ⟨fits, rfl⟩
    | bytes piece small =>
      cases piece with
      | nil => cases stopped
      | cons b bs =>
        simp only [awaitLine] at stopped
        split at stopped
        · cases stopped
        · rename_i uncut
          split at stopped
          · cases stopped
          · rename_i fitting
            -- The piece joins the bytes at hand in both waits.
            rw [List.filter_cons_of_pos rfl]
            simp only [awaitLine, uncut, if_neg fitting]
            refine ih ?_ (by omega) stopped
            rw [counted, List.length_append, List.length_reverse]
            omega

/-- A wait for bytes that is not stopped by a failure that passes comes to the same without any. -/
theorem awaitExact_calm
    (last : ∀ why buffered source,
      awaitExact ending seen missing deliveries = .stopped (.fault why) buffered source →
        why.kind = .unexpectedEnd) :
    awaitExact ending seen missing (deliveries.filter Delivery.lasts)
      = (awaitExact ending seen missing deliveries).calm := by
  -- By induction on the deliveries, those that pass being taken out on both sides.
  induction deliveries generalizing seen missing with
  | nil => rfl
  | cons delivery later ih =>
    cases delivery with
    | fault fault =>
      simp only [awaitExact] at last ⊢
      by_cases interrupted : fault.kind = .interrupted
      · simp only [if_pos interrupted] at last ⊢
        rw [List.filter_cons_of_neg (Delivery.lasts_interrupted interrupted)]
        exact ih last
      · simp only [if_neg interrupted] at last ⊢
        -- The fault that stops the wait is the end of the stream, which is not taken out.
        have ends : (Delivery.fault fault).lasts = true := decide_eq_true (last _ _ _ rfl)
        rw [List.filter_cons_of_pos ends, awaitExact, if_neg interrupted]
        rfl
    | bytes piece fits =>
      rw [List.filter_cons_of_pos rfl]
      cases piece with
      | nil => rfl
      | cons b bs =>
        simp only [awaitExact] at last ⊢
        split
        · rfl
        · rename_i few
          simp only [if_neg few] at last
          exact ih last

/-- A wait for bytes that a passing failure stops may be taken up again for what is missing by
then. -/
theorem awaitExact_again (some : 0 < missing)
    (stopped : awaitExact ending seen missing deliveries = .stopped (.fault why) buffered source)
    (passing : why.kind ≠ .unexpectedEnd) :
    awaitExact ending seen missing (deliveries.filter Delivery.lasts)
      = awaitExact source.ending buffered.reverse (seen.length + missing - buffered.length)
          source.calm.deliveries := by
  induction deliveries generalizing seen missing with
  | nil =>
    simp only [awaitExact, Wait.stopped.injEq] at stopped
    obtain ⟨silent, rfl, rfl⟩ := stopped
    cases ending with
    | closed => cases silent
    | silent | unknown | starved =>
      simp [Source.calm, awaitExact, Ending.stop, Ending.afterRead]
  | cons delivery later ih =>
    cases delivery with
    | fault fault =>
      simp only [awaitExact] at stopped
      split at stopped
      · rename_i interrupted
        rw [List.filter_cons_of_neg (Delivery.lasts_interrupted interrupted)]
        exact ih some stopped
      · simp only [Wait.stopped.injEq, Stop.fault.injEq] at stopped
        obtain ⟨rfl, rfl, rfl⟩ := stopped
        have passes : ¬(Delivery.fault fault).lasts = true := by simpa [Delivery.lasts] using passing
        rw [List.filter_cons_of_neg passes, List.reverse_reverse, List.length_reverse,
          Nat.add_sub_cancel_left]
        rfl
    | bytes piece small =>
      cases piece with
      | nil => cases stopped
      | cons b bs =>
        simp only [awaitExact] at stopped
        split at stopped
        · cases stopped
        · rename_i few
          rw [List.filter_cons_of_pos rfl]
          simp only [awaitExact, if_neg few]
          -- What the piece brings is at hand and no longer missing.
          have same : ((b :: bs).reverse ++ seen).length + (missing - (b :: bs).length)
              = seen.length + missing := by
            rw [List.length_append, List.length_reverse]
            omega
          rw [← same]
          exact ih (by omega) stopped

/-- A wait for a line that a failure stops has taken the failure from the deliveries, if only they
can fail. -/
theorem awaitLine_fewer
    (stopped : awaitLine .closed seen count deliveries = .stopped (.stop (.fault why)) buffered source) :
    source.deliveries.length < deliveries.length := by
  -- By induction on the deliveries, of which at least the failing one is taken.
  induction deliveries generalizing seen count with
  | nil => cases stopped
  | cons delivery later ih =>
    rw [List.length_cons]
    cases delivery with
    | fault fault =>
      simp only [awaitLine] at stopped
      split at stopped
      · exact Nat.lt_succ_of_lt (ih stopped)
      · cases stopped
        exact Nat.lt_succ_self _
    | bytes piece fits =>
      cases piece with
      | nil => cases stopped
      | cons b bs =>
        simp only [awaitLine] at stopped
        split at stopped
        · cases stopped
        · split at stopped
          · cases stopped
          · exact Nat.lt_succ_of_lt (ih stopped)

/-- A wait for bytes that a failure stops has taken the failure from the deliveries, if only they
can fail. -/
theorem awaitExact_fewer
    (stopped : awaitExact .closed seen missing deliveries = .stopped (.fault why) buffered source) :
    source.deliveries.length < deliveries.length := by
  -- By induction as for a line.
  induction deliveries generalizing seen missing with
  | nil => cases stopped
  | cons delivery later ih =>
    rw [List.length_cons]
    cases delivery with
    | fault fault =>
      simp only [awaitExact] at stopped
      split at stopped
      · exact Nat.lt_succ_of_lt (ih stopped)
      · cases stopped
        exact Nat.lt_succ_self _
    | bytes piece fits =>
      cases piece with
      | nil => cases stopped
      | cons b bs =>
        simp only [awaitExact] at stopped
        split at stopped
        · cases stopped
        · exact Nat.lt_succ_of_lt (ih stopped)

end Waits

/-- Whether a read has to be made again. -/
def passes : Except WireError Bytes → Bool
  | .error e => e.isPassing
  | .ok _ => false

namespace Reader

variable {r after : Reader} {outcome : Except WireError Bytes} {e : WireError} {length : Nat}

/-- A line that is read, or missed for good, is so without the failures that pass. -/
theorem readLineBytes_calm (made : readLineBytes r = (outcome, after))
    (settled : passes outcome = false) : readLineBytes r.calm = (outcome, after.calm) := by
  cases cut : cutLine? r.buffer with
  | some parts =>
    rw [readLineBytes_of_cut cut] at made
    rw [readLineBytes_of_cut (r := r.calm) cut]
    cases made
    rfl
  | none =>
    have free : Line.feed ∉ r.buffer := cutLine?_eq_none_iff.mp cut
    rcases Nat.lt_or_ge Line.maxLength r.buffer.length with long | fits
    · rw [readLineBytes_of_long free long] at made
      rw [readLineBytes_of_long (r := r.calm) free long]
      cases made
      rfl
    · rw [readLineBytes_of_free free fits] at made
      -- The wait was not stopped by a failure that passes, or the read would have to be made again.
      have same := awaitLine_calm fun why _ _ stopped => by
        rw [stopped] at made
        cases made
        simpa [passes, WireError.isPassing_ofFault] using settled
      rw [readLineBytes_of_free (r := r.calm) free fits]
      refine (congrArg r.calm.lineAfter same).trans ?_
      generalize awaitLine r.source.ending r.buffer.reverse r.buffer.length r.source.deliveries = wait
        at made ⊢
      rcases wait with _ | ⟨_ | _ | _, _, _⟩
      all_goals
        cases made
        rfl

/-- A line that is to be read again is read as if the failure had not been. -/
theorem readLineBytes_again (failed : readLineBytes r = (.error e, after))
    (passing : e.isPassing = true) : readLineBytes r.calm = readLineBytes after.calm := by
  cases cut : cutLine? r.buffer with
  | some parts =>
    rw [readLineBytes_of_cut cut] at failed
    cases failed
  | none =>
    have free : Line.feed ∉ r.buffer := cutLine?_eq_none_iff.mp cut
    rcases Nat.lt_or_ge Line.maxLength r.buffer.length with long | fits
    · rw [readLineBytes_of_long free long] at failed
      cases failed
      cases passing
    · rw [readLineBytes_of_free free fits] at failed
      rcases stopped : awaitLine r.source.ending r.buffer.reverse r.buffer.length
        r.source.deliveries with _ | ⟨_ | _ | why, buffered, source⟩
      case stopped.stop.fault =>
        rw [stopped] at failed
        cases failed
        rw [WireError.isPassing_ofFault] at passing
        obtain ⟨fitting, again⟩ := awaitLine_again (List.length_reverse).symm fits stopped
          (of_decide_eq_true passing)
        -- What is at hand after the failure is still the beginning of a line within the limit.
        have still : Line.feed ∉ buffered := (awaitLine_stopped stopped).2.2 (by simpa using free)
        rw [readLineBytes_of_free (r := r.calm) free fits,
          readLineBytes_of_free (r := (r.resume buffered source).calm) still fitting]
        exact congrArg r.calm.lineAfter again
      all_goals
        rw [stopped] at failed
        cases failed
      · cases passing
      · split at passing
        all_goals cases passing

/-- Bytes that are read, or missed for good, are so without the failures that pass. -/
theorem readExact_calm (made : readExact length r = (outcome, after))
    (settled : passes outcome = false) : readExact length r.calm = (outcome, after.calm) := by
  -- Only the wait looks at the source, and a settled one comes to the same.
  rcases Nat.lt_or_ge Chunk.maxSize length with large | small
  · rw [readExact_of_large large] at made ⊢
    cases made
    rfl
  · rcases Nat.lt_or_ge r.buffer.length length with few | enough
    · rw [readExact_of_few small few] at made
      have same := awaitExact_calm fun why _ _ stopped => by
        rw [stopped] at made
        cases made
        simpa [passes, WireError.isPassing_ofFault] using settled
      -- The same wait is made over the calm source, with the same result.
      rw [readExact_of_few (r := r.calm) small few]
      refine (congrArg (r.calm.exactAfter length) same).trans ?_
      generalize awaitExact r.source.ending r.buffer.reverse (length - r.buffer.length)
        r.source.deliveries = wait at made ⊢
      rcases wait with _ | ⟨_ | _, _, _⟩
      all_goals
        cases made
        rfl
    · rw [readExact_of_enough small enough] at made
      rw [readExact_of_enough (r := r.calm) small enough]
      cases made
      rfl

/-- Bytes that are to be read again are read as if the failure had not been. -/
theorem readExact_again (failed : readExact length r = (.error e, after))
    (passing : e.isPassing = true) : readExact length r.calm = readExact length after.calm := by
  rcases Nat.lt_or_ge Chunk.maxSize length with large | small
  · rw [readExact_of_large large, readExact_of_large large]
    rw [readExact_of_large large] at failed
    cases failed
    rfl
  · rcases Nat.lt_or_ge r.buffer.length length with few | enough
    · rw [readExact_of_few small few] at failed
      rcases stopped : awaitExact r.source.ending r.buffer.reverse (length - r.buffer.length)
        r.source.deliveries with _ | ⟨_ | why, buffered, source⟩
      case stopped.fault =>
        rw [stopped] at failed
        cases failed
        rw [WireError.isPassing_ofFault] at passing
        have again := awaitExact_again (by omega) stopped (of_decide_eq_true passing)
        -- Bytes may have come before the failure, but some of those asked for have not.
        have fewer := (awaitExact_stopped (by omega) stopped).2.2
        rw [List.length_reverse, Nat.add_sub_cancel' (Nat.le_of_lt few)] at again fewer
        rw [readExact_of_few (r := r.calm) small few,
          readExact_of_few (r := (r.resume buffered source).calm) small fewer]
        exact congrArg (r.calm.exactAfter length) again
      all_goals
        rw [stopped] at failed
        cases failed
      cases passing
    · rw [readExact_of_enough small enough] at failed
      cases failed

/-- Each failure that passes has been taken from the source, if it is to end. -/
theorem readLineBytes_fewer (ends : r.source.ending = .closed)
    (failed : readLineBytes r = (.error e, after)) (passing : e.isPassing = true) :
    after.source.deliveries.length < r.source.deliveries.length := by
  -- The failure passes, so that it is a fault that stopped the wait.
  simp only [readLineBytes, ends] at failed
  split at failed
  · cases failed
  · split at failed
    · cases failed
      cases passing
    · split at failed
      · cases failed
      · cases failed
        cases passing
      · rename_i stopped
        cases failed
        exact awaitLine_fewer stopped
      · cases failed
        split at passing
        all_goals cases passing

/-- Each failure that passes has been taken from the source, if it is to end. -/
theorem readExact_fewer (ends : r.source.ending = .closed)
    (failed : readExact length r = (.error e, after)) (passing : e.isPassing = true) :
    after.source.deliveries.length < r.source.deliveries.length := by
  -- As for a line, where the other failures are the length and the end of the stream.
  simp only [readExact, ends] at failed
  split at failed
  · cases failed
    cases passing
  · split at failed
    · cases failed
    · split at failed
      · cases failed
      · rename_i stopped
        cases failed
        exact awaitExact_fewer stopped
      · cases failed
        cases passing

end Reader

namespace RawRead

variable {call : RawRead} {r after : Reader} {outcome : Except WireError Bytes} {e : WireError}

/-- A read that need not be made again comes to the same without the failures that pass. -/
theorem perform_calm (made : call.perform r = (outcome, after)) (settled : passes outcome = false) :
    call.perform r.calm = (outcome, after.calm) := by
  -- The two kinds of reads were looked at before.
  cases call with
  | line => exact Reader.readLineBytes_calm made settled
  | exact length => exact Reader.readExact_calm made settled

/-- A read that has to be made again goes on as if the failure had not been. -/
theorem perform_again (failed : call.perform r = (.error e, after)) (passing : e.isPassing = true) :
    call.perform r.calm = call.perform after.calm := by
  -- The failure is one of a line or one of counted bytes.
  cases call with
  | line => exact Reader.readLineBytes_again failed passing
  | exact length => exact Reader.readExact_again failed passing

/-- A read leaves the end of a source that is to end. -/
theorem perform_ending (call : RawRead) :
    Step.Keeps (fun r : Reader => r.source.ending = .closed) call.perform := by
  -- Neither kind of read ends what was to end in another way.
  cases call with
  | line => exact Reader.readLineBytes_ending rfl
  | exact length => exact Reader.readExact_ending rfl length

/-- A read that is made again as long as it fails with a failure that passes, up to another
outcome. -/
inductive Settles (call : RawRead) : Reader → Except WireError Bytes → Reader → Prop where
  | settled {r after : Reader} {outcome : Except WireError Bytes}
    (made : call.perform r = (outcome, after)) (settled : passes outcome = false) :
    Settles call r outcome after
  | again {r next after : Reader} {e : WireError} {outcome : Except WireError Bytes}
    (failed : call.perform r = (.error e, next)) (passing : e.isPassing = true)
    (later : Settles call next outcome after) : Settles call r outcome after

/-- A read that is made again until it settles is one read without the failures that pass. -/
theorem Settles.perform_calm (settles : call.Settles r outcome after) :
    call.perform r.calm = (outcome, after.calm) := by
  -- By induction on the attempts, the last of which settles.
  induction settles with
  | settled made settled => exact RawRead.perform_calm made settled
  | again failed passing later ih => rw [perform_again failed passing, ih]

/-- A read from a source that is to end settles, and leaves one that is to end. -/
theorem exists_settles (call : RawRead) {r : Reader} (ends : r.source.ending = .closed) :
    ∃ outcome after, call.Settles r outcome after ∧ after.source.ending = .closed := by
  -- The induction is on the deliveries, of which every failure takes one.
  induction size : r.source.deliveries.length using Nat.strongRecOn generalizing r with
  | _ n ih =>
    rcases made : call.perform r with ⟨outcome, next⟩
    have kept := call.perform_ending ends
    rw [made] at kept
    cases lasting : passes outcome with
    | false => exact ⟨outcome, next, .settled made lasting, kept⟩
    | true =>
      cases outcome with
      | ok bytes => cases lasting
      | error e =>
        have fewer : next.source.deliveries.length < r.source.deliveries.length := by
          cases call with
          | line => exact Reader.readLineBytes_fewer ends made lasting
          | exact length => exact Reader.readExact_fewer ends made lasting
        obtain ⟨outcome, after, later, closed⟩ := ih _ (size ▸ fewer) kept rfl
        exact ⟨outcome, after, .again made lasting later, closed⟩

/-- Reads in order, each made again until it settles. -/
inductive SettleAll : List RawRead → Reader → List (Except WireError Bytes) → Reader → Prop where
  | nil {r : Reader} : SettleAll [] r [] r
  | cons {call : RawRead} {calls : List RawRead} {r next after : Reader}
    {outcome : Except WireError Bytes} {outcomes : List (Except WireError Bytes)}
    (first : call.Settles r outcome next) (rest : SettleAll calls next outcomes after) :
    SettleAll (call :: calls) r (outcome :: outcomes) after

/-- Reads that are made again until they settle are the same reads without the failures that
pass. -/
theorem SettleAll.performAll_calm {calls : List RawRead} {outcomes : List (Except WireError Bytes)}
    (settle : SettleAll calls r outcomes after) :
    r.calm.performAll calls = (outcomes, after.calm) := by
  -- By induction on the calls, one after the other.
  induction settle with
  | nil => rfl
  | cons first rest ih => simp only [Reader.performAll, first.perform_calm, ih]

/-- All reads from a source that is to end settle. -/
theorem exists_settleAll (calls : List RawRead) {r : Reader} (ends : r.source.ending = .closed) :
    ∃ outcomes after, SettleAll calls r outcomes after := by
  -- By induction on the calls; each of them settles since the source is to end.
  induction calls generalizing r with
  | nil => exact ⟨[], r, .nil⟩
  | cons call later ih =>
    obtain ⟨outcome, next, first, kept⟩ := call.exists_settles ends
    obtain ⟨outcomes, after, rest⟩ := ih kept
    exact ⟨outcome :: outcomes, after, .cons first rest⟩

end RawRead

namespace Reader

/-- Up to the end of the stream, what reads have delivered, what is buffered and what has not arrived
are the bytes of the source in order. A read that fails takes none of them away, unless the stream
ends within what was asked for. Then all that is buffered is lost and nothing else. So reads that are
made again as long as the transport fails come to the same as without its failures. They come to
something on every source that is to end. -/
theorem bytes_conserved {source : Source} {encoding : Encoding} {calls : List RawRead}
    {outcomes : List (Except WireError Bytes)} {reached : Reader}
    (made : (ofSource source encoding).performAll calls = (outcomes, reached)) :
    ((∀ e, .error e ∈ outcomes → e.isEnd = false) →
      ∃ taken, Delivered calls outcomes taken ∧
        taken ++ reached.buffer ++ reached.source.content = source.content) ∧
    (∀ call e after, RawRead.perform call reached = (.error e, after) → reached.Spares e after) ∧
    (∀ settled after, RawRead.SettleAll calls (ofSource source encoding) settled after →
      (ofSource source.calm encoding).performAll calls = (settled, after.calm)) ∧
    (source.ending = .closed →
      ∃ settled after, RawRead.SettleAll calls (ofSource source encoding) settled after) := by
  refine ⟨fun going => ?_, fun call e after failed => RawRead.perform_spares failed,
    fun settled after settle => settle.performAll_calm, fun ends => RawRead.exists_settleAll calls ends⟩
  -- Before the first read all bytes of the source are unread.
  have delivered := @performAll_delivered calls (ofSource source encoding)
  rw [made] at delivered
  obtain ⟨taken, those, whole⟩ := delivered going
  exact ⟨taken, those, (List.append_assoc ..).trans whole⟩

/-- A line and a chunk are read across a wait in vain and a connection that is reset for a moment. -/
theorem bytes_conserved_faults :
    (ofSource ⟨[.bytes [97, 98] (by decide), .fault (.ofKind .timedOut),
          .bytes [99, 13, 10, 120, 10] (by decide), .fault (.system .connectionReset),
          .bytes [121, 122] (by decide)], .closed⟩ .latin1).performAll
        [.line, .line, .exact 20000000, .exact 3, .exact 3]
      = ([.error .timeout, .ok [97, 98, 99], .error (.chunkTooLarge 20000000 Chunk.maxSize),
          .error (.transport (.system .connectionReset)), .ok [120, 10, 121]],
        ⟨[122], ⟨[], .closed⟩, .latin1⟩) ∧
    ∃ taken, Delivered [.line, .line, .exact 20000000, .exact 3, .exact 3]
        [.error .timeout, .ok [97, 98, 99], .error (.chunkTooLarge 20000000 Chunk.maxSize),
          .error (.transport (.system .connectionReset)), .ok [120, 10, 121]] taken ∧
      taken ++ [122] ++ [] = [97, 98, 99, 13, 10, 120, 10, 121, 122] :=
  -- The outcomes are known by computation, and the theorem says what they took of the content.
  ⟨rfl, (@bytes_conserved ⟨[.bytes [97, 98] (by decide), .fault (.ofKind .timedOut),
      .bytes [99, 13, 10, 120, 10] (by decide), .fault (.system .connectionReset),
      .bytes [121, 122] (by decide)], .closed⟩ .latin1 _ _ ⟨[122], ⟨[], .closed⟩, .latin1⟩ rfl).1
    (by simp [WireError.isEnd])⟩

end Reader
end AmigaRemote
