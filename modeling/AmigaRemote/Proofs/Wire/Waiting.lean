import AmigaRemote.Proofs.Wire.Reliability

/-! Which reads are begun. Whoever waits for a line or for a number of bytes takes deliveries until
they have brought it, and none after that. -/

namespace AmigaRemote

namespace Delivery

/-- Deliveries that were taken until the bytes were enough. Before each of them they were not. -/
def TakenUntil (enough : Bytes → Prop) (taken : List Delivery) : Prop :=
  ∀ before delivery later, taken = before ++ delivery :: later → ¬enough (before.flatMap content)

variable {enough : Bytes → Prop} {delivery : Delivery} {front back taken : List Delivery}

/-- Nothing has to be taken where nothing is missing. -/
theorem takenUntil_nil : TakenUntil enough [] := by
  -- No delivery can be found among none.
  intro before delivery later same
  cases before <;> cases same

/-- The first delivery is taken because no bytes are not enough, and those behind it because its own
are not. -/
theorem takenUntil_cons : TakenUntil enough (delivery :: taken) ↔
    ¬enough [] ∧ TakenUntil (fun arrived => enough (delivery.content ++ arrived)) taken := by
  constructor
  · intro whole
    refine ⟨whole [] delivery taken rfl, fun before one later same => ?_⟩
    exact whole (delivery :: before) one later (congrArg _ same)
  · rintro ⟨none, others⟩ before one later same
    -- Either it is the first delivery that is looked at, or one behind it.
    cases before with
    | nil => exact none
    | cons first before =>
      obtain ⟨rfl, tail⟩ := List.cons.inj same
      exact others before one later tail

/-- What is taken after other deliveries is taken because theirs are not enough. -/
theorem takenUntil_append : TakenUntil enough (front ++ back) ↔ TakenUntil enough front ∧
    TakenUntil (fun arrived => enough (front.flatMap content ++ arrived)) back := by
  -- By induction on the deliveries in front, whose contents count for those behind.
  induction front generalizing enough with
  | nil => simp [takenUntil_nil]
  | cons delivery front ih =>
    rw [List.cons_append, takenUntil_cons, takenUntil_cons, ih, and_assoc]
    simp only [List.flatMap_cons, List.append_assoc]

/-- What is taken until there is enough for one need is taken for one that is not met before. -/
theorem TakenUntil.mono {more : Bytes → Prop} (until_ : TakenUntil enough taken)
    (later : ∀ arrived, more arrived → enough arrived) : TakenUntil more taken :=
  -- What is not enough for more is the less enough.
  fun before delivery rest same met => until_ before delivery rest same (later _ met)

/-- What is left of deliveries that bring all their bytes brings all of its own. -/
theorem Reliable.later (reliable : Reliable (front ++ back)) : Reliable back := by
  -- Whatever the first delivery is, the others have to be reliable by themselves.
  induction front with
  | nil => exact reliable
  | cons delivery front ih =>
    cases delivery with
    | bytes piece fits => exact ih reliable.2
    | fault why => exact ih reliable.2

end Delivery

/-- A wait for a line takes deliveries until one brings a line end. -/
theorem awaitLine_taken {ending : Ending} {seen line rest : Bytes} {count : Nat}
    {deliveries : List Delivery} {source : Source}
    (found : awaitLine ending seen count deliveries = .complete line rest source) :
    source.ending = ending ∧ ∃ taken, deliveries = taken ++ source.deliveries ∧
      Delivery.TakenUntil (Line.feed ∈ ·) taken := by
  -- Every delivery but the last has no line end, so that the wait goes on after it.
  induction deliveries generalizing seen count with
  | nil => cases found
  | cons delivery later ih =>
    cases delivery with
    | fault fault =>
      simp only [awaitLine] at found
      split at found
      · -- An interrupted read brings nothing.
        obtain ⟨kept, taken, rfl, others⟩ := ih found
        exact ⟨kept, _ :: taken, rfl, Delivery.takenUntil_cons.mpr ⟨List.not_mem_nil, others⟩⟩
      · cases found
    | bytes piece fits =>
      cases piece with
      | nil => cases found
      | cons b bs =>
        simp only [awaitLine] at found
        split at found
        · -- The piece with the line end is the last one.
          cases found
          exact ⟨rfl, [_], rfl,
            Delivery.takenUntil_cons.mpr ⟨List.not_mem_nil, Delivery.takenUntil_nil⟩⟩
        · rename_i uncut
          split at found
          · cases found
          · obtain ⟨kept, taken, rfl, others⟩ := ih found
            refine ⟨kept, _ :: taken, rfl,
              Delivery.takenUntil_cons.mpr ⟨List.not_mem_nil, others.mono fun arrived ends => ?_⟩⟩
            -- The piece has no line end, so it is in what arrives after it.
            exact (List.mem_append.mp ends).resolve_left (cutLine?_eq_none_iff.mp uncut)

/-- A wait for bytes takes deliveries until they bring as many as are missing. -/
theorem awaitExact_taken {ending : Ending} {seen bytes rest : Bytes} {missing : Nat}
    {deliveries : List Delivery} {source : Source} (some : 0 < missing)
    (found : awaitExact ending seen missing deliveries = .complete bytes rest source) :
    source.ending = ending ∧ ∃ taken, deliveries = taken ++ source.deliveries ∧
      Delivery.TakenUntil (missing ≤ ·.length) taken := by
  have none : ¬missing ≤ ([] : Bytes).length := Nat.not_le_of_lt some
  -- The induction is on the deliveries, of which each leaves less missing.
  induction deliveries generalizing seen missing with
  | nil => cases found
  | cons delivery later ih =>
    cases delivery with
    | fault fault =>
      simp only [awaitExact] at found
      split at found
      · -- What was missing is still missing.
        obtain ⟨kept, taken, rfl, others⟩ := ih some found none
        exact ⟨kept, _ :: taken, rfl, Delivery.takenUntil_cons.mpr ⟨none, others⟩⟩
      · cases found
    | bytes piece fits =>
      cases piece with
      | nil => cases found
      | cons b bs =>
        simp only [awaitExact] at found
        split at found
        · -- The piece has all that was missing, and is the last one.
          cases found
          exact ⟨rfl, [_], rfl, Delivery.takenUntil_cons.mpr ⟨none, Delivery.takenUntil_nil⟩⟩
        · rename_i few
          have left : 0 < missing - (b :: bs).length := by omega
          obtain ⟨kept, taken, rfl, others⟩ := ih left found (Nat.not_le_of_lt left)
          refine ⟨kept, _ :: taken, rfl,
            Delivery.takenUntil_cons.mpr ⟨none, others.mono fun arrived enough => ?_⟩⟩
          -- The piece makes up for so much of what was missing.
          rw [List.length_append] at enough
          change missing ≤ (b :: bs).length + _ at enough
          omega

namespace Reader

/-- A reader that was read from for certain bytes: reads were begun until these had arrived, and
none after that, not even at the end of what was to be delivered. -/
def ReadsFor (wanted : Bytes) (r after : Reader) : Prop :=
  after.source.ending = r.source.ending ∧
    ∃ taken, r.source.deliveries = taken ++ after.source.deliveries ∧
      Delivery.TakenUntil (fun arrived => wanted.length ≤ (r.buffer ++ arrived).length) taken

variable {r middle after : Reader} {front back : Bytes}

/-- Nothing is read for what is there. -/
theorem readsFor_of_source_eq {wanted : Bytes} (same : after.source = r.source) :
    r.ReadsFor wanted after :=
  -- No delivery is taken.
  ⟨congrArg Source.ending same, [], congrArg Source.deliveries same.symm, Delivery.takenUntil_nil⟩

/-- Reads for some bytes and then for those behind them are reads for all of them. -/
theorem ReadsFor.trans (first : r.ReadsFor front middle) (second : middle.ReadsFor back after)
    (unread : r.unread = front ++ middle.unread) : r.ReadsFor (front ++ back) after := by
  obtain ⟨kept, early, same, untilFront⟩ := first
  obtain ⟨kept', late, same', untilBack⟩ := second
  refine ⟨kept'.trans kept, early ++ late, by rw [same, same', List.append_assoc], ?_⟩
  -- What has arrived in between is the first bytes and what the second reads begin with.
  have between : r.buffer ++ early.flatMap Delivery.content = front ++ middle.buffer := by
    simp only [Reader.unread, Source.content, same, List.flatMap_append] at unread
    rw [← List.append_assoc, ← List.append_assoc] at unread
    exact List.append_cancel_right unread
  refine Delivery.takenUntil_append.mpr ⟨untilFront.mono ?_, untilBack.mono ?_⟩
  · -- Whoever has all of the bytes has the front ones.
    intro arrived enough
    rw [List.length_append] at enough
    exact Nat.le_trans (Nat.le_add_right _ _) enough
  · -- With the front ones taken off, the others are left to wait for.
    intro arrived enough
    rw [← List.append_assoc, between, List.append_assoc, List.length_append,
      List.length_append] at enough
    exact Nat.le_of_add_le_add_left enough

/-- What is left of a source that brings all its bytes brings all of its own. -/
theorem ReadsFor.reliable {wanted : Bytes} (reads : r.ReadsFor wanted after)
    (reliable : r.source.Reliable) : after.source.Reliable := by
  obtain ⟨kept, taken, same, _⟩ := reads
  -- The deliveries that are left are the end of those that were there.
  obtain ⟨deliveries, ending⟩ := reliable
  rw [same] at deliveries
  exact ⟨deliveries.later, kept.trans ending⟩

/-- A line is read for its bytes and its end. -/
theorem readLineBytes_readsFor {raw said : Bytes} (free : Line.feed ∉ raw)
    (read : readLineBytes r = (.ok said, after))
    (unread : r.unread = raw ++ Line.feed :: after.unread) :
    r.ReadsFor (raw ++ [Line.feed]) after := by
  simp only [readLineBytes] at read
  split at read
  · -- The line was there before anything was read.
    cases read
    exact readsFor_of_source_eq rfl
  · rename_i uncut
    split at read
    · cases read
    · split at read
      · rename_i line rest source found
        cases read
        obtain ⟨kept, taken, same, until_⟩ := awaitLine_taken found
        refine ⟨kept, taken, same, fun before delivery later split enough => ?_⟩
        -- What has no line end yet is a front of the line, and shorter than the line and its end.
        have open_ : Line.feed ∉ r.buffer ++ before.flatMap Delivery.content := by
          rw [List.mem_append, not_or]
          exact ⟨cutLine?_eq_none_iff.mp uncut, until_ before delivery later split⟩
        have whole : (r.buffer ++ before.flatMap Delivery.content)
            ++ (delivery :: later ++ source.deliveries).flatMap Delivery.content
              = raw ++ Line.feed :: (rest ++ source.content) := by
          refine .trans ?_ unread
          simp only [Reader.unread, Source.content, same, split, List.flatMap_append,
            List.append_assoc]
        obtain ⟨more, rfl, _⟩ := front_of_free open_ whole
        simp only [List.length_append, List.length_singleton] at enough
        omega
      all_goals cases read

/-- Counted bytes are read for themselves. -/
theorem readExact_readsFor {length : Nat} {bytes : Bytes}
    (read : readExact length r = (.ok bytes, after)) : r.ReadsFor bytes after := by
  have many := readExact_length read
  simp only [readExact] at read
  split at read
  · cases read
  · split at read
    · -- Enough bytes were there before any were read.
      cases read
      exact readsFor_of_source_eq rfl
    · rename_i few
      split at read
      · rename_i found
        cases read
        obtain ⟨kept, taken, same, until_⟩ := awaitExact_taken (by omega) found
        refine ⟨kept, taken, same, until_.mono fun arrived enough => ?_⟩
        -- The bytes that are missing are those that the buffer does not have.
        rw [List.length_append] at enough
        omega
      all_goals cases read

end Reader

/-- A reading that gives a result wherever certain bytes come first, and reads for them alone. -/
def Prompt {α : Type} (reading : Reading α) (encoding : Encoding) (a : α) (wanted : Bytes) : Prop :=
  ∀ ⦃r : Reader⦄ ⦃rest : Bytes⦄, r.encoding = encoding → r.coming = wanted ++ rest →
    ∃ after, reading r = (.ok a, after) ∧ after.coming = rest ∧
      r.unread = wanted ++ after.unread ∧ after.encoding = encoding ∧ r.ReadsFor wanted after

end AmigaRemote
