import AmigaRemote.Proofs.Wire.Reading

/-! Which lines are too long. The limit is looked at when a read begins, so it is one on the bytes
that have arrived by then, and not on the line that they begin. -/

namespace AmigaRemote

section Amounts

variable {count amount size : Nat} {deliveries : List Delivery}

/-- What is at hand does not become less. -/
theorem Delivery.le_of_mem_amounts (member : amount ∈ amounts count deliveries) :
    count ≤ amount := by
  -- By induction on the deliveries, each of which adds what it brings or nothing.
  induction deliveries generalizing count with
  | nil => exact Nat.le_of_eq (List.mem_singleton.mp member).symm
  | cons delivery later ih =>
    cases delivery with
    | fault why =>
      simp only [amounts] at member
      split at member
      · exact ih member
      · exact Nat.le_of_eq (List.mem_singleton.mp member).symm
    | bytes piece fits =>
      cases piece with
      | nil => exact Nat.le_of_eq (List.mem_singleton.mp member).symm
      | cons b bs =>
        rcases List.mem_cons.mp member with rfl | behind
        · exact Nat.le_refl _
        · exact Nat.le_of_add_right_le (ih behind)

/-- Later reads begin with no less than earlier ones. -/
theorem Delivery.amounts_ascending (count : Nat) (deliveries : List Delivery) :
    (amounts count deliveries).Pairwise (· ≤ ·) := by
  -- By induction as above: behind each amount come those that are no less.
  induction deliveries generalizing count with
  | nil => exact List.pairwise_singleton _ _
  | cons delivery later ih =>
    cases delivery with
    | fault why =>
      simp only [amounts]
      split
      · exact ih count
      · exact List.pairwise_singleton _ _
    | bytes piece fits =>
      cases piece with
      | nil => exact List.pairwise_singleton _ _
      | cons b bs =>
        exact .cons (fun _ member => Nat.le_of_add_right_le (le_of_mem_amounts member)) (ih _)

/-- The last read begins with all bytes that come. -/
theorem Delivery.last_mem_amounts (count : Nat) (deliveries : List Delivery) :
    count + (flow deliveries).length ∈ amounts count deliveries := by
  -- By induction as above: the last of the amounts has all the bytes in it.
  induction deliveries generalizing count with
  | nil => exact List.mem_singleton.mpr rfl
  | cons delivery later ih =>
    cases delivery with
    | fault why =>
      simp only [amounts, flow]
      split
      · exact ih count
      · exact List.mem_singleton.mpr rfl
    | bytes piece fits =>
      cases piece with
      | nil => exact List.mem_singleton.mpr rfl
      | cons b bs =>
        have behind := ih (count + (b :: bs).length)
        rw [Nat.add_assoc, ← List.length_append] at behind
        exact List.mem_cons_of_mem _ behind

/-- Where too much is at hand already, that is the first amount beyond the limit. -/
theorem Delivery.find?_amounts_of_lt (exceeds : Line.maxLength < count) :
    (amounts count deliveries).find? (Line.maxLength < ·) = some count := by
  -- The amount at the beginning is the first one, and it exceeds the limit already.
  have first : decide (Line.maxLength < count) = true := decide_eq_true exceeds
  -- An interruption adds no amount, so that the case of one needs the induction.
  induction deliveries with
  | nil => exact List.find?_cons_of_pos first
  | cons delivery later ih =>
    cases delivery with
    | fault why =>
      simp only [amounts]
      split
      · exact ih
      · exact List.find?_cons_of_pos first
    | bytes piece fits =>
      cases piece with
      | nil => exact List.find?_cons_of_pos first
      | cons b bs => exact List.find?_cons_of_pos first

/-- The first amount beyond the limit is the least. -/
theorem Delivery.le_of_find?_amounts
    (first : (amounts count deliveries).find? (Line.maxLength < ·) = some size)
    (member : amount ∈ amounts count deliveries) (exceeds : Line.maxLength < amount) :
    size ≤ amount := by
  obtain ⟨_, front, back, parts, within⟩ := List.find?_eq_some_iff_append.mp first
  have ascending := amounts_ascending count deliveries
  rw [parts] at member ascending
  rcases List.mem_append.mp member with before | behind
  · -- Amounts before the first one are within the limit.
    have := within amount before
    simp only [Bool.not_eq_true', decide_eq_false_iff_not] at this
    exact absurd exceeds this
  · rcases List.mem_cons.mp behind with rfl | behind
    · exact Nat.le_refl _
    · exact (List.pairwise_cons.mp (List.pairwise_append.mp ascending).2.1).1 amount behind

/-- A wait for a line is given up when a read begins with too many bytes for the first time, unless
they hold its end. -/
theorem awaitLine_exceeded {ending : Ending} {seen : Bytes} (fits : count ≤ Line.maxLength)
    (first : (Delivery.amounts count deliveries).find? (Line.maxLength < ·) = some size)
    (free : Line.feed ∉ (Delivery.flow deliveries).take (size - count)) :
    ∃ buffered source,
      awaitLine ending seen count deliveries = .stopped (.overlong size) buffered source := by
  -- The read that begins now is not the one.
  have skip : ∀ behind : List Nat, (count :: behind).find? (Line.maxLength < ·)
      = behind.find? (Line.maxLength < ·) := fun behind =>
    List.find?_cons_of_neg (by simpa using fits)
  induction deliveries generalizing seen count with
  | nil =>
    rw [Delivery.amounts, skip] at first
    cases first
  | cons delivery later ih =>
    cases delivery with
    | fault why =>
      simp only [Delivery.amounts, Delivery.flow] at first free
      split at first
      · rename_i interrupted
        rw [if_pos interrupted] at free
        simpa only [awaitLine, if_pos interrupted] using ih fits first free skip
      · rw [skip] at first
        cases first
    | bytes piece small =>
      cases piece with
      | nil =>
        rw [Delivery.amounts, skip] at first
        cases first
      | cons b bs =>
        simp only [Delivery.amounts, Delivery.flow] at first free
        rw [skip] at first
        have reached := Delivery.le_of_mem_amounts (List.mem_of_find?_eq_some first)
        -- The piece lies within the bytes that are too many, so that it holds no line end.
        rw [List.take_append, List.take_of_length_le (by omega), List.mem_append, not_or] at free
        have cut : cutLine? (b :: bs) = none := cutLine?_eq_none_iff.mpr free.1
        simp only [awaitLine, cut]
        by_cases exceeds : Line.maxLength < count + (b :: bs).length
        · rw [Delivery.find?_amounts_of_lt exceeds, Option.some.injEq] at first
          rw [if_pos exceeds, first]
          exact ⟨_, _, rfl⟩
        · rw [if_neg exceeds]
          refine ih (by omega) first ?_ fun behind => List.find?_cons_of_neg (by simpa using exceeds)
          rw [← Nat.sub_sub]
          exact free.2

/-- A line that is waited for ends with the read that passes the limit, if not before. -/
theorem awaitLine_bounded {ending : Ending} {seen line rest : Bytes} {source : Source}
    (counted : count = seen.length) (fits : count ≤ Line.maxLength)
    (found : awaitLine ending seen count deliveries = .complete line rest source) :
    line.length < Line.maxLength + readSize := by
  induction deliveries generalizing seen count with
  | nil => cases found
  | cons delivery later ih =>
    cases delivery with
    | fault why =>
      simp only [awaitLine] at found
      split at found
      · exact ih counted fits found
      · cases found
    | bytes piece small =>
      cases piece with
      | nil => cases found
      | cons b bs =>
        simp only [awaitLine] at found
        split at found
        · rename_i head tail cut
          cases found
          -- The line end is one byte of the last piece.
          rw [cutLine?_eq_some cut, List.length_append, List.length_cons] at small
          rw [List.length_append, List.length_reverse]
          omega
        · split at found
          · cases found
          · refine ih ?_ (by omega) found
            rw [counted, List.length_append, List.length_reverse]
            omega

end Amounts

/-- Without its carriage return a line is no longer. -/
theorem length_dropCarriageReturn_le (line : Bytes) :
    (dropCarriageReturn line).length ≤ line.length := by
  unfold dropCarriageReturn
  -- A line may lose its last byte, and no other.
  split
  · rw [List.length_dropLast]
    exact Nat.sub_le _ _
  · exact Nat.le_refl _

namespace Reader

variable {r : Reader}

/-- All that comes is at hand when the last read begins. -/
theorem length_coming_mem_amounts (r : Reader) : r.coming.length ∈ r.amounts := by
  rw [coming, List.length_append]
  -- What is at hand in the buffer is the amount that the counting begins with.
  exact Delivery.last_mem_amounts r.buffer.length r.source.deliveries

/-- A line is given up when a read begins with too many bytes for the first time, unless they hold
its end. -/
theorem readLineBytes_exceeded {size : Nat}
    (first : r.amounts.find? (Line.maxLength < ·) = some size)
    (free : Line.feed ∉ r.coming.take size) :
    ∃ after, readLineBytes r = (.error (.lineTooLong size Line.maxLength), after) := by
  have reached : r.buffer.length ≤ size :=
    Delivery.le_of_mem_amounts (List.mem_of_find?_eq_some first)
  rw [coming, List.take_append, List.take_of_length_le reached, List.mem_append, not_or] at free
  rcases Nat.lt_or_ge Line.maxLength r.buffer.length with long | fits
  · -- So many were at hand before anything was read.
    have same := @Delivery.find?_amounts_of_lt _ r.source.deliveries long
    obtain rfl : r.buffer.length = size := Option.some.inj (same.symm.trans first)
    exact ⟨r, readLineBytes_of_long free.1 long⟩
  · obtain ⟨buffered, source, stopped⟩ := @awaitLine_exceeded _ _ _ r.source.ending
      r.buffer.reverse fits first free.2
    exact ⟨r.resume buffered source, by rw [readLineBytes_of_free free.1 fits, stopped]; rfl⟩

/-- A line that had not arrived before it was read ends with the read that passes the limit, if not
before. -/
theorem readLineBytes_bounded {line : Bytes} {after : Reader} (free : Line.feed ∉ r.buffer)
    (read : readLineBytes r = (.ok line, after)) : line.length < Line.maxLength + readSize := by
  -- A buffer beyond the limit gives no line, so that the line was waited for.
  rcases Nat.lt_or_ge Line.maxLength r.buffer.length with long | fits
  · rw [readLineBytes_of_long free long] at read
    cases read
  · rw [readLineBytes_of_free free fits] at read
    cases found : awaitLine r.source.ending r.buffer.reverse r.buffer.length r.source.deliveries with
    | complete whole rest source =>
      rw [found] at read
      cases read
      have bounded := awaitLine_bounded (List.length_reverse).symm fits found
      exact Nat.lt_of_le_of_lt (length_dropCarriageReturn_le whole) bounded
    | stopped why buffered source =>
      rw [found] at read
      rcases why with _ | _ | _
      all_goals cases read

/-- A line within the limit is read, and bytes beyond it without a line end are given up. A longer
line is given up if a read begins, or would begin, with too many bytes that are all part of it.
Otherwise its end comes in the same read as the byte with which it passes the limit, and it is read.
So no line is longer than the limit by a whole read. -/
theorem readLineBytes_limit (free : Line.feed ∉ r.buffer) :
    (∀ line rest, Line.feed ∉ line → r.coming = line ++ Line.feed :: rest →
      line.length ≤ Line.maxLength →
        ∃ after, readLineBytes r = (.ok (dropCarriageReturn line), after) ∧ after.coming = rest) ∧
    (Line.feed ∉ r.coming → Line.maxLength < r.coming.length →
      ∃ size after, Line.maxLength < size ∧
        readLineBytes r = (.error (.lineTooLong size Line.maxLength), after)) ∧
    (∀ line rest, Line.feed ∉ line → r.coming = line ++ Line.feed :: rest →
      Line.maxLength < line.length →
        ((∃ amount ∈ r.amounts, Line.maxLength < amount ∧ amount ≤ line.length) →
          ∃ size after, Line.maxLength < size ∧ size ≤ line.length ∧
            readLineBytes r = (.error (.lineTooLong size Line.maxLength), after)) ∧
        ((∀ amount ∈ r.amounts, Line.maxLength < amount → line.length < amount) →
          ∃ after, readLineBytes r = (.ok (dropCarriageReturn line), after) ∧
            after.coming = rest)) ∧
    (∀ line after, readLineBytes r = (.ok line, after) →
      line.length < Line.maxLength + readSize) := by
  -- Whenever some amount is beyond the limit there is a first one.
  have exists_first : ∀ amount ∈ r.amounts, Line.maxLength < amount →
      ∃ size, r.amounts.find? (Line.maxLength < ·) = some size ∧ Line.maxLength < size := by
    intro amount member exceeds
    have found : (r.amounts.find? (Line.maxLength < ·)).isSome = true :=
      List.find?_isSome.mpr ⟨amount, member, by simpa using exceeds⟩
    obtain ⟨size, first⟩ := Option.isSome_iff_exists.mp found
    have beyond := List.find?_some first
    exact ⟨size, first, by simpa using beyond⟩
  refine ⟨fun line rest lineFree comes short => readLineBytes_coming lineFree short comes,
    fun none long => ?_, fun line rest lineFree comes long => ⟨?_, fun ends =>
      readLineBytes_comes lineFree ends comes⟩, fun line after read => readLineBytes_bounded free read⟩
  · obtain ⟨size, first, beyond⟩ := exists_first _ r.length_coming_mem_amounts long
    obtain ⟨after, read⟩ := readLineBytes_exceeded first fun member => none (List.mem_of_mem_take member)
    exact ⟨size, after, beyond, read⟩
  · rintro ⟨amount, member, exceeds, early⟩
    obtain ⟨size, first, beyond⟩ := exists_first amount member exceeds
    have least : size ≤ line.length :=
      Nat.le_trans (Delivery.le_of_find?_amounts first member exceeds) early
    -- The bytes at hand by then are all part of the line.
    obtain ⟨after, read⟩ := readLineBytes_exceeded first (by
      rw [comes, List.take_append_of_le_length least]
      exact fun member => lineFree (List.mem_of_mem_take member))
    exact ⟨size, after, beyond, least, read⟩

/-- A line beyond the limit is read if its end comes along with its last byte. -/
theorem readLineBytes_limit_passed :
    ∃ after, readLineBytes ⟨List.replicate Line.maxLength 97,
        ⟨[.bytes [98, 10] (by decide)], .closed⟩, .latin1⟩
      = (.ok (List.replicate Line.maxLength 97 ++ [98]), after) ∧ after.coming = [] := by
  have free : Line.feed ∉ List.replicate Line.maxLength (97 : UInt8) := by simp [Line.feed]
  have beyond := (@readLineBytes_limit ⟨List.replicate Line.maxLength 97,
    ⟨[.bytes [98, 10] (by decide)], .closed⟩, .latin1⟩ free).2.2.1
    (List.replicate Line.maxLength 97 ++ [98]) [] (by simp [Line.feed])
    (by simp [coming, Delivery.flow, Line.feed]) (by simp)
  -- The two reads begin with as many bytes as a line may have, and with two more.
  obtain ⟨after, read, nothing⟩ := beyond.2 (by simp [amounts, Delivery.amounts])
  exact ⟨after, by simpa [dropCarriageReturn, Line.carriageReturn] using read, nothing⟩

/-- Of two readers that meet the same bytes one reads a line beyond the limit and one gives it up. -/
theorem not_readLineBytes_limit :
    ∃ left right : Reader, Line.feed ∉ left.buffer ∧ Line.feed ∉ right.buffer ∧
      left.coming = right.coming ∧
      (∃ line after, readLineBytes left = (.ok line, after) ∧ Line.maxLength < line.length) ∧
      ∃ size after, readLineBytes right = (.error (.lineTooLong size Line.maxLength), after) := by
  have free : Line.feed ∉ List.replicate Line.maxLength (97 : UInt8) := by simp [Line.feed]
  -- The byte beyond the limit and the line end come in one read, or in one each.
  refine ⟨⟨List.replicate Line.maxLength 97, ⟨[.bytes [98, 10] (by decide)], .closed⟩, .latin1⟩,
    ⟨List.replicate Line.maxLength 97, ⟨[.bytes [98] (by decide), .bytes [10] (by decide)], .closed⟩,
      .latin1⟩, free, free, rfl, ?_, ?_⟩
  · obtain ⟨after, read, _⟩ := @readLineBytes_comes ⟨List.replicate Line.maxLength 97,
      ⟨[.bytes [98, 10] (by decide)], .closed⟩, .latin1⟩ (List.replicate Line.maxLength 97 ++ [98]) []
      (by simp [Line.feed]) (by simp [amounts, Delivery.amounts])
      (by simp [coming, Delivery.flow, Line.feed])
    refine ⟨_, after, read, ?_⟩
    simp [dropCarriageReturn, Line.carriageReturn]
  · obtain ⟨after, read⟩ := @readLineBytes_exceeded ⟨List.replicate Line.maxLength 97,
      ⟨[.bytes [98] (by decide), .bytes [10] (by decide)], .closed⟩, .latin1⟩ (Line.maxLength + 1)
      (by simp [amounts, Delivery.amounts, List.find?])
      (by simp [coming, Delivery.flow, List.take_append, Line.feed])
    exact ⟨_, after, read⟩

end Reader
end AmigaRemote
