import AmigaRemote.Proofs.Wire.Arrival
import AmigaRemote.Proofs.Wire.Layout
import AmigaRemote.Proofs.Wire.Waiting

/-! What a reading asks a transport for. Whoever reads a layout stretch by stretch needs its bytes
and no others, reads no more once the last of them is there, and where they are cut off reports the
stretch that is cut. -/

namespace AmigaRemote

/-- A reading that reads a layout stretch by stretch and makes a result of it. -/
inductive Asks (encoding : Encoding) : {α : Type} → Reading α → Layout → α → Prop where
  | line {raw : Bytes} (free : Line.feed ∉ raw) :
    Asks encoding Reader.readLineBytes [.line raw] (dropCarriageReturn raw)
  | counted {bytes : Bytes} (small : bytes.length ≤ Chunk.maxSize) :
    Asks encoding (Reader.readExact bytes.length) [.counted bytes] bytes
  -- To decode what was read and to give back what is known take no stretch.
  | decode (said : Bytes) :
    Asks encoding (do let r ← get; return r.encoding.decode said) [] (encoding.decode said)
  | pure {α : Type} (a : α) : Asks encoding (Pure.pure a) [] a
  | bind {α β : Type} {x : Reading α} {next : α → Reading β} {a : α} {b : β} {front back : Layout}
    (first : Asks encoding x front a) (second : Asks encoding (next a) back b) :
    Asks encoding (x >>= next) (front ++ back) b

/-- The failure of whoever needs a stretch and receives no more than so many bytes of it. -/
def Stretch.cutAt (encoding : Encoding) : Stretch → Nat → WireError
  -- A line of which nothing has come is not missed.
  | line raw, received =>
    if received = 0 then .connectionClosed else .closedMidLine (encoding.decode (raw.take received))
  | counted bytes, received => .closedMidChunk bytes.length received

namespace Layout

/-- The failure of whoever needs a layout and receives no more than so many bytes of it: that of the
stretch in which they end. -/
def cutAt (encoding : Encoding) : Layout → Nat → WireError
  | [], _ => .connectionClosed
  -- A stretch of which all bytes have come is behind the cut, even if it has none.
  | stretch :: behind, received =>
    if received < stretch.bytes.length then stretch.cutAt encoding received
    else cutAt encoding behind (received - stretch.bytes.length)

variable {encoding : Encoding} {front back : Layout} {received : Nat}

/-- What is cut off in front is cut off there, whatever was to come behind it. -/
theorem cutAt_append_front (within : received < front.bytes.length) :
    cutAt encoding (front ++ back) received = front.cutAt encoding received := by
  -- Both sides pass the same stretches, and the cut comes before the first is at its end.
  induction front generalizing received with
  | nil => cases within
  | cons stretch front ih =>
    rw [bytes_cons, List.length_append] at within
    rw [List.cons_append, cutAt, cutAt]
    by_cases here : received < stretch.bytes.length
    · rw [if_pos here, if_pos here]
    · rw [if_neg here, if_neg here]
      exact ih (by omega)

/-- What is there in front makes no difference to what is cut off behind it. -/
theorem cutAt_append_back :
    cutAt encoding (front ++ back) (front.bytes.length + received) = back.cutAt encoding received := by
  induction front with
  | nil => exact congrArg _ (Nat.zero_add received)
  | cons stretch front ih =>
    rw [bytes_cons, List.length_append, List.cons_append, cutAt]
    -- So many bytes are more than those of the first stretch, which are taken off.
    rw [if_neg (by omega), Nat.add_assoc, Nat.add_sub_cancel_left, ih]

end Layout

namespace Reader

variable {r : Reader}

/-- From a reliable source a line that is cut off within the limit is reported with what has come of
it. -/
theorem readLineBytes_cut {raw : Bytes} (free : Line.feed ∉ raw)
    (short : raw.length ≤ Line.maxLength) (reliable : r.source.Reliable)
    (cut : r.unread <+: raw) :
    ∃ after, readLineBytes r
        = (.error ((Stretch.line raw).cutAt r.encoding r.unread.length), after) ∧
      after.unread = [] := by
  obtain ⟨missing, rfl⟩ := cut
  rw [List.mem_append, not_or] at free
  rw [List.length_append] at short
  rcases found : readLineBytes r with ⟨outcome, after⟩
  rcases (readLineBytes_reliable reliable).2 with long | same
  · -- A part of the line is not too long.
    have := maxLength_lt_of_tooLong long
    omega
  · -- What has come of the line has no line end, so it is discarded.
    rw [found, firstLine, cutLine?_eq_none_iff.mpr free.1] at same
    obtain ⟨failed, nothing⟩ := Prod.mk.inj same
    have failed : outcome = _ := failed
    subst failed
    refine ⟨after, ?_, nothing⟩
    simp only [Stretch.cutAt, List.length_eq_zero_iff, List.take_left]

/-- From a reliable source counted bytes that are cut off are reported with how many have come. -/
theorem readExact_cut {bytes : Bytes} (small : bytes.length ≤ Chunk.maxSize)
    (reliable : r.source.Reliable) (few : r.unread.length < bytes.length) :
    ∃ after, readExact bytes.length r
        = (.error ((Stretch.counted bytes).cutAt r.encoding r.unread.length), after) ∧
      after.unread = [] := by
  rcases found : readExact bytes.length r with ⟨outcome, after⟩
  -- A reliable source has the bytes that are left and no others, which are too few here.
  have same := (readExact_reliable reliable bytes.length).2
  rw [found, firstBytes, if_neg (Nat.not_lt_of_le small), if_neg (Nat.not_le_of_lt few)] at same
  obtain ⟨failed, nothing⟩ := Prod.mk.inj same
  have failed : outcome = _ := failed
  subst failed
  exact ⟨after, rfl, nothing⟩

end Reader

namespace Asks

variable {encoding : Encoding} {α β : Type} {x : Reading α} {next : α → Reading β} {layout : Layout}
  {a : α} {b : β}

/-- What is made of what was read asks for no more. -/
theorem bind_nil (first : Asks encoding x layout a) (second : Asks encoding (next a) [] b) :
    Asks encoding (x >>= next) layout b := by
  -- No bytes behind are no bytes at all.
  have whole := first.bind second
  rwa [List.append_nil] at whole

/-- A result known beforehand asks for nothing. -/
theorem ofExcept {result : Except WireError α} (success : result = .ok a) :
    Asks encoding (Step.ofExcept result) [] a := by
  -- What succeeds beforehand is a result that is returned.
  subst success
  exact pure a

/-- A line of text asks for its bytes. -/
theorem text {raw : Bytes} (free : Line.feed ∉ raw) :
    Asks encoding Reader.readLine [.line raw] (encoding.decode (dropCarriageReturn raw)) := by
  -- A line of text is its bytes, decoded without reading any more.
  rw [Reader.readLine_eq]
  exact (line free).bind_nil (decode _)

/-- Where all stretches are there, they are taken and nothing is read. -/
theorem ready (asks : Asks encoding x layout a) (rest : Bytes) (source : Source) :
    x ⟨layout.bytes ++ rest, source, encoding⟩ = (.ok a, ⟨rest, source, encoding⟩) := by
  -- Each stretch is cut off at the front of the buffer, and the source stays as it is.
  induction asks generalizing rest with
  | @line raw free =>
    have cut : cutLine? (Layout.bytes [.line raw] ++ rest) = some (raw, rest) := by
      rw [Layout.bytes_singleton, Stretch.bytes, List.append_assoc]
      exact cutLine?_append free
    simp only [Reader.readLineBytes, cut, Reader.resume]
  | @counted bytes small =>
    rw [Layout.bytes_singleton, Stretch.bytes]
    simp only [Reader.readExact, Reader.resume, if_neg (Nat.not_lt_of_le small)]
    rw [if_pos (by simp), List.take_left, List.drop_left]
  | decode said => rfl
  | pure a => rfl
  | bind first second ihFirst ihSecond =>
    rw [Layout.bytes_append, List.append_assoc]
    exact Step.bind_eq_ok.mpr ⟨_, _, ihFirst _, ihSecond rest⟩

/-- Where stretches within the limit come, they are taken, and nothing is read for more. -/
theorem prompt (asks : Asks encoding x layout a) (short : layout.Short) :
    Prompt x encoding a layout.bytes := by
  induction asks with
  | @line raw free =>
    intro r rest kept comes
    rw [Layout.bytes_singleton] at comes ⊢
    have limit : raw.length ≤ Line.maxLength := short _ List.mem_cons_self
    obtain ⟨after, read, behind, unread, same⟩ :=
      Reader.readLineBytes_arrives free limit kept comes
    refine ⟨after, read, behind, unread, same, Reader.readLineBytes_readsFor free read ?_⟩
    rw [unread, List.append_assoc, List.singleton_append]
  | @counted bytes small =>
    intro r rest kept comes
    rw [Layout.bytes_singleton] at comes ⊢
    obtain ⟨after, read, behind, unread, same⟩ := Reader.readExact_arrives small kept comes
    exact ⟨after, read, behind, unread, same, Reader.readExact_readsFor read⟩
  | decode said =>
    intro r rest kept comes
    exact ⟨r, by rw [← kept]; rfl, comes, rfl, kept, Reader.readsFor_of_source_eq rfl⟩
  | pure a =>
    intro r rest kept comes
    exact ⟨r, rfl, comes, rfl, kept, Reader.readsFor_of_source_eq rfl⟩
  | bind first second ihFirst ihSecond =>
    -- What comes behind the front stretches is what the second reading meets.
    obtain ⟨shortFront, shortBack⟩ := Layout.short_append.mp short
    intro r rest kept comes
    rw [Layout.bytes_append] at comes ⊢
    rw [List.append_assoc] at comes
    obtain ⟨middle, read, comes, unread, kept, reads⟩ := ihFirst shortFront kept comes
    obtain ⟨after, read', comes, unread', kept, reads'⟩ := ihSecond shortBack kept comes
    refine ⟨after, Step.bind_eq_ok.mpr ⟨_, _, read, read'⟩, comes, ?_, kept,
      reads.trans reads' unread⟩
    rw [unread, unread', List.append_assoc]

/-- Two readings that take their stretches from the front of the same bytes have read alike. -/
theorem unique {other : Layout} {a' : α} {rest rest' : Bytes} (asks : Asks encoding x layout a)
    (asks' : Asks encoding x other a') (same : layout.bytes ++ rest = other.bytes ++ rest') :
    a = a' ∧ layout.bytes = other.bytes := by
  -- A reader that has all the bytes at hand gives one answer, which is that of both.
  have read := asks.ready rest ⟨[], .closed⟩
  rw [same, asks'.ready rest' ⟨[], .closed⟩] at read
  cases read
  exact ⟨rfl, List.append_cancel_right same⟩

/-- Where stretches within the limit are cut off, that is reported, and nothing is left over. -/
theorem truncated (asks : Asks encoding x layout a) (short : layout.Short) {r : Reader}
    (kept : r.encoding = encoding) (reliable : r.source.Reliable) {missing : Bytes}
    (some : missing ≠ []) (cut : r.unread ++ missing = layout.bytes) :
    ∃ after, x r = (.error (layout.cutAt encoding r.unread.length), after) ∧ after.unread = [] := by
  induction asks generalizing r missing with
  | @line raw free =>
    rw [Layout.bytes_singleton] at cut
    have limit : raw.length ≤ Line.maxLength := short _ List.mem_cons_self
    -- At least the end of the line is missing.
    have front : r.unread <+: raw := by
      rcases List.prefix_concat_iff.mp ⟨missing, cut⟩ with whole | front
      · rw [whole, Stretch.bytes] at cut
        exact absurd (List.append_right_eq_self.mp cut) some
      · exact front
    have within : r.unread.length < (Stretch.line raw).bytes.length := by
      simpa [Stretch.bytes] using Nat.lt_succ_of_le front.length_le
    rw [Layout.cutAt, if_pos within, ← kept]
    exact Reader.readLineBytes_cut free limit reliable front
  | @counted bytes small =>
    rw [Layout.bytes_singleton] at cut
    have few : r.unread.length < (Stretch.counted bytes).bytes.length := by
      have := List.length_pos_iff.mpr some
      rw [← cut, List.length_append]
      omega
    rw [Layout.cutAt, if_pos few, ← kept]
    exact Reader.readExact_cut small reliable few
  | decode said => exact absurd (List.append_eq_nil_iff.mp cut).2 some
  | pure a => exact absurd (List.append_eq_nil_iff.mp cut).2 some
  | @bind α β x next a b front back first second ihFirst ihSecond =>
    obtain ⟨shortFront, shortBack⟩ := Layout.short_append.mp short
    rw [Layout.bytes_append] at cut
    by_cases within : r.unread.length < front.bytes.length
    · -- What is read first is cut off, so what is read after it is not begun.
      obtain ⟨more, same⟩ : r.unread <+: front.bytes :=
        List.prefix_of_prefix_length_le ⟨missing, cut⟩ ⟨back.bytes, rfl⟩ (Nat.le_of_lt within)
      have left : more ≠ [] := by
        rintro rfl
        rw [← same, List.append_nil] at within
        exact Nat.lt_irrefl _ within
      obtain ⟨after, failed, nothing⟩ := ihFirst shortFront kept reliable left same
      rw [Layout.cutAt_append_front within]
      exact ⟨after, Step.bind_error failed next, nothing⟩
    · -- What is read first is there, and the cut lies behind it.
      obtain ⟨more, whole⟩ : front.bytes <+: r.unread :=
        List.prefix_of_prefix_length_le ⟨back.bytes, rfl⟩ ⟨missing, cut⟩ (Nat.le_of_not_lt within)
      obtain ⟨middle, read, _, unread, kept', reads⟩ :=
        first.prompt shortFront kept ((Reader.coming_of_reliable reliable).trans whole.symm)
      have same : middle.unread ++ missing = back.bytes := by
        rw [unread, List.append_assoc] at cut
        exact List.append_cancel_left cut
      obtain ⟨after, failed, nothing⟩ :=
        ihSecond shortBack kept' (reads.reliable reliable) some same
      rw [unread, List.length_append, Layout.cutAt_append_back]
      exact ⟨after, Step.bind_eq_error.mpr (.inr ⟨a, middle, read, failed⟩), nothing⟩

end Asks
end AmigaRemote
