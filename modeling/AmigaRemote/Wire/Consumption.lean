import AmigaRemote.Wire.Reader

/-! What reads take: a line and its end, or exactly the bytes asked for, from the front of what is
unread. Hence a loop of reads ends. -/

namespace AmigaRemote

/-- A cut line and the rest are the bytes, with the line end between them. -/
theorem cutLine?_eq_some {bytes line rest : Bytes} (cut : cutLine? bytes = some (line, rest)) :
    bytes = line ++ Line.feed :: rest := by
  unfold cutLine? at cut
  split at cut
  · rename_i stop behind later
    simp only [Option.some.injEq, Prod.mk.injEq] at cut
    -- The first byte that is not part of the line is the line end.
    have isFeed : stop = Line.feed := by
      have := List.head?_dropWhile_not (fun b => decide (b ≠ Line.feed)) bytes
      rw [later] at this
      simpa using this
    have whole :=
      List.takeWhile_append_dropWhile (p := fun b => decide (b ≠ Line.feed)) (l := bytes)
    rw [later, isFeed, cut.1, cut.2] at whole
    exact whole.symm
  · simp at cut

/-- A cut line holds no line end. -/
theorem cutLine?_free {bytes line rest : Bytes} (cut : cutLine? bytes = some (line, rest)) :
    Line.feed ∉ line := by
  unfold cutLine? at cut
  split at cut
  · simp only [Option.some.injEq, Prod.mk.injEq] at cut
    intro member
    rw [← cut.1] at member
    -- Whatever stands before the first line end is none.
    have others := List.all_eq_true.mp
      (List.all_takeWhile (p := fun b => decide (b ≠ Line.feed)) (l := bytes)) Line.feed member
    simp at others
  · simp at cut

/-- Bytes cannot be cut exactly if they hold no line end. -/
theorem cutLine?_eq_none_iff {bytes : Bytes} : cutLine? bytes = none ↔ Line.feed ∉ bytes := by
  -- Both sides ask every byte whether it is a line end.
  have reached : bytes.dropWhile (fun b => decide (b ≠ Line.feed)) = [] ↔ Line.feed ∉ bytes := by
    induction bytes with
    | nil => simp
    | cons b bs ih =>
      by_cases isFeed : b = Line.feed
      · simp [isFeed]
      · rw [List.dropWhile_cons, if_pos (by simpa using isFeed), ih]
        simp [Ne.symm isFeed]
  rw [← reached]
  unfold cutLine?
  split
  · rename_i later
    simp only [later, reduceCtorEq]
  · rename_i later
    simp only [later]

/-- A complete line, its end and what stays are the bytes at hand and those still to come. -/
theorem awaitLine_complete {ending : Ending} {seen line rest : Bytes} {count : Nat}
    {deliveries : List Delivery} {source : Source}
    (found : awaitLine ending seen count deliveries = .complete line rest source) :
    seen.reverse ++ deliveries.flatMap Delivery.content
      = line ++ Line.feed :: (rest ++ source.content) := by
  -- The bytes that arrive move from the deliveries to those at hand.
  induction deliveries generalizing seen count with
  | nil => simp [awaitLine] at found
  | cons delivery later ih =>
    cases delivery with
    | fault fault =>
      simp only [awaitLine] at found
      split at found
      · simpa [Delivery.content] using ih found
      · simp at found
    | bytes piece fits =>
      cases piece with
      | nil => simp [awaitLine] at found
      | cons b bs =>
        simp only [awaitLine] at found
        split at found
        · rename_i head tail cut
          -- The line ends within this delivery.
          simp only [Wait.complete.injEq] at found
          obtain ⟨rfl, rfl, rfl⟩ := found
          simp [Delivery.content, Source.content, cutLine?_eq_some cut]
        · split at found
          · simp at found
          · simpa [Delivery.content] using ih found

/-- A complete line holds no line end if the bytes at hand hold none. -/
theorem awaitLine_free {ending : Ending} {seen line rest : Bytes} {count : Nat}
    {deliveries : List Delivery} {source : Source} (free : Line.feed ∉ seen)
    (found : awaitLine ending seen count deliveries = .complete line rest source) :
    Line.feed ∉ line := by
  induction deliveries generalizing seen count with
  | nil => simp [awaitLine] at found
  | cons delivery later ih =>
    cases delivery with
    | fault fault =>
      simp only [awaitLine] at found
      split at found
      · exact ih free found
      · simp at found
    | bytes piece fits =>
      cases piece with
      | nil => simp [awaitLine] at found
      | cons b bs =>
        simp only [awaitLine] at found
        split at found
        · rename_i head tail cut
          simp only [Wait.complete.injEq] at found
          rw [← found.1]
          simp [free, cutLine?_free cut]
        · rename_i uncut
          split at found
          · simp at found
          · -- A piece that was not cut brings no line end to the bytes at hand.
            refine ih ?_ found
            have none := cutLine?_eq_none_iff.mp uncut
            simpa [free, and_comm] using none

/-- Bytes that were waited for and what stays are the bytes at hand and those still to come. -/
theorem awaitExact_complete {ending : Ending} {seen bytes rest : Bytes} {missing : Nat}
    {deliveries : List Delivery} {source : Source}
    (found : awaitExact ending seen missing deliveries = .complete bytes rest source) :
    seen.reverse ++ deliveries.flatMap Delivery.content = bytes ++ (rest ++ source.content) := by
  -- Every delivery but the last is taken whole, and the last is split where enough has come.
  induction deliveries generalizing seen missing with
  | nil => simp [awaitExact] at found
  | cons delivery later ih =>
    cases delivery with
    | fault fault =>
      simp only [awaitExact] at found
      split at found
      · simpa [Delivery.content] using ih found
      · simp at found
    | bytes piece fits =>
      cases piece with
      | nil => simp [awaitExact] at found
      | cons b bs =>
        simp only [awaitExact] at found
        split at found
        · simp only [Wait.complete.injEq] at found
          obtain ⟨rfl, rfl, rfl⟩ := found
          simp only [List.flatMap_cons, Delivery.content, Source.content, List.append_assoc,
            ← List.append_assoc (List.take _ _), List.take_append_drop]
        · simpa [Delivery.content] using ih found

namespace Reader

/-- A line that was read stood at the front of what was unread, followed by its end. -/
theorem readLineBytes_ok {r after : Reader} {line : Bytes}
    (read : readLineBytes r = (.ok line, after)) :
    ∃ whole, Line.feed ∉ whole ∧ dropCarriageReturn whole = line ∧
      r.unread = whole ++ Line.feed :: after.unread := by
  simp only [readLineBytes] at read
  split at read
  · rename_i whole rest cut
    simp only [Prod.mk.injEq, Except.ok.injEq] at read
    obtain ⟨rfl, rfl⟩ := read
    exact ⟨whole, cutLine?_free cut, rfl, by simp [unread, resume, cutLine?_eq_some cut]⟩
  · rename_i uncut
    split at read
    · simp at read
    · split at read
      · rename_i whole rest source found
        simp only [Prod.mk.injEq, Except.ok.injEq] at read
        obtain ⟨rfl, rfl⟩ := read
        refine ⟨whole, ?_, rfl, ?_⟩
        -- The bytes at hand hold no line end, or they would have been cut.
        · exact awaitLine_free (by simpa using cutLine?_eq_none_iff.mp uncut) found
        · simpa [unread, resume, Source.content] using awaitLine_complete found
      all_goals simp at read

/-- Reading a line leaves less unread. -/
theorem readLine_shortens {r after : Reader} {line : Text}
    (read : readLine r = (.ok line, after)) : after.unread.length < r.unread.length := by
  simp only [readLine] at read
  split at read
  · rename_i whole next found
    -- The line end alone makes the difference, even if the line is empty.
    obtain ⟨raw, _, _, front⟩ := readLineBytes_ok found
    simp only [Prod.mk.injEq] at read
    rw [← read.2, front]
    simp only [List.length_append, List.length_cons]
    omega
  · simp at read

/-- Bytes that were read stood at the front of what was unread. -/
theorem readExact_ok {r after : Reader} {length : Nat} {bytes : Bytes}
    (read : readExact length r = (.ok bytes, after)) : r.unread = bytes ++ after.unread := by
  simp only [readExact] at read
  -- Either the buffer holds enough of them already, or the rest is awaited from the source.
  split at read
  · simp at read
  · split at read
    · simp only [Prod.mk.injEq, Except.ok.injEq] at read
      obtain ⟨rfl, rfl⟩ := read
      simp only [unread, resume, ← List.append_assoc, List.take_append_drop]
    · split at read
      · rename_i taken rest source found
        simp only [Prod.mk.injEq, Except.ok.injEq] at read
        obtain ⟨rfl, rfl⟩ := read
        simpa [unread, resume, Source.content] using awaitExact_complete found
      all_goals simp at read

/-- Reading bytes leaves no more unread. -/
theorem readExact_shortens {r after : Reader} {length : Nat} {bytes : Bytes}
    (read : readExact length r = (.ok bytes, after)) :
    after.unread.length ≤ r.unread.length := by
  -- No bytes may be asked for, so nothing less than equality is lost.
  rw [readExact_ok read, List.length_append]
  omega

end Reader

end AmigaRemote
