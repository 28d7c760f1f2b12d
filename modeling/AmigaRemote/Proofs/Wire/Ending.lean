import AmigaRemote.Proofs.Wire.Keeping
import AmigaRemote.Proofs.Wire.Reliability

/-! Once it is known how a source ends, no read changes it. -/

namespace AmigaRemote

/-- Waiting for a line leaves the end of a source as it is. -/
theorem awaitLine_ending {ending : Ending} (known : ending.afterRead = ending) {seen : Bytes}
    {count : Nat} {deliveries : List Delivery} :
    (awaitLine ending seen count deliveries).source.ending = ending := by
  -- Only a read past the last delivery asks how the source ends.
  induction deliveries generalizing seen count with
  | nil => exact known
  | cons delivery later ih =>
    cases delivery with
    | fault fault =>
      simp only [awaitLine]
      split
      · exact ih
      · rfl
    | bytes piece fits =>
      cases piece with
      | nil => rfl
      | cons b bs =>
        simp only [awaitLine]
        split
        · rfl
        · split
          · rfl
          · exact ih

/-- Waiting for bytes leaves the end of a source as it is. -/
theorem awaitExact_ending {ending : Ending} (known : ending.afterRead = ending) {seen : Bytes}
    {missing : Nat} {deliveries : List Delivery} :
    (awaitExact ending seen missing deliveries).source.ending = ending := by
  -- By induction on the deliveries, with the bytes that are still missing left open.
  induction deliveries generalizing seen missing with
  | nil => exact known
  | cons delivery later ih =>
    -- An interruption is passed over, any other fault ends the wait.
    cases delivery with
    | fault fault =>
      simp only [awaitExact]
      split
      · exact ih
      · rfl
    | bytes piece fits =>
      cases piece with
      | nil => rfl
      | cons b bs =>
        simp only [awaitExact]
        split
        · rfl
        · exact ih

namespace Reader

variable {ending : Ending}

/-- Reading a line leaves the end of the source as it is. -/
theorem readLineBytes_ending (known : ending.afterRead = ending) :
    Step.Keeps (fun r : Reader => r.source.ending = ending) readLineBytes := by
  rintro r rfl
  simp only [readLineBytes]
  -- What is not read from the buffer is waited for.
  split
  · rfl
  · split
    · rfl
    · have kept := @awaitLine_ending _ known r.buffer.reverse r.buffer.length r.source.deliveries
      split
      all_goals
        rename_i found
        rw [found] at kept
        exact kept

/-- Reading bytes leaves the end of the source as it is. -/
theorem readExact_ending (known : ending.afterRead = ending) (length : Nat) :
    Step.Keeps (fun r : Reader => r.source.ending = ending) (readExact length) := by
  rintro r rfl
  -- Nothing is read, or the rest of the bytes is waited for.
  simp only [readExact]
  split
  · rfl
  · split
    · rfl
    · have kept := @awaitExact_ending _ known r.buffer.reverse (length - r.buffer.length)
        r.source.deliveries
      split
      all_goals
        rename_i found
        rw [found] at kept
        exact kept

/-- It is known of a reader how its source ends. -/
def Complete (r : Reader) : Prop :=
  r.source.ending = .closed ∨ r.source.ending = .silent

/-- What is known ends in the same way after a read past its end. -/
theorem Complete.afterRead {r : Reader} (complete : Complete r) :
    r.source.ending.afterRead = r.source.ending := by
  -- Only what is unknown is changed by a read past its end.
  rcases complete with closed | silent
  · rw [closed, Ending.afterRead]
    exact nofun
  · rw [silent, Ending.afterRead]
    exact nofun

/-- No reading changes how a source ends once it is known. -/
theorem complete_preserved : Preserved Complete where
  -- A line and counted bytes are the only readings that look at the source.
  line := fun r complete => by
    have same := readLineBytes_ending complete.afterRead (s := r) rfl
    rwa [Complete, same]
  bytes := fun length r complete => by
    have same := readExact_ending complete.afterRead length (s := r) rfl
    rwa [Complete, same]

end Reader
end AmigaRemote
