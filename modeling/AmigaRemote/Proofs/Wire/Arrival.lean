import AmigaRemote.Proofs.Wire.Framing

/-! A frame whose lines keep to the limit is read once all of it comes, in whatever pieces. -/

namespace AmigaRemote

namespace Line

/-- No line among the bytes is longer than a line may be. -/
def Within (bytes : Bytes) : Prop :=
  ∀ before line after, bytes = before ++ line ++ feed :: after → feed ∉ line →
    line.length ≤ maxLength

/-- The front of bytes within the limit is within the limit. -/
theorem Within.front {front back : Bytes} (within : Within (front ++ back)) : Within front := by
  -- A line in the front is a line in the whole, with more behind it.
  intro before line after same free
  exact within before line (after ++ back) (by simp [same]) free

/-- What follows in bytes within the limit is within the limit. -/
theorem Within.back {front back : Bytes} (within : Within (front ++ back)) : Within back := by
  -- And a line in the back is one with more before it.
  intro before line after same free
  exact within (front ++ before) line after (by simp [same]) free

/-- Bytes that are no more than a line may have hold no longer line. -/
theorem within_of_length_le {bytes : Bytes} (few : bytes.length ≤ maxLength) : Within bytes := by
  -- No line is longer than all the bytes.
  intro before line after same _
  simp only [same, List.length_append, List.length_cons] at few
  omega

/-- A line within the limit in front keeps all lines within the limit. -/
theorem Within.cons {line rest : Bytes} (free : feed ∉ line)
    (short : line.length ≤ maxLength) (within : Within rest) :
    Within (line ++ feed :: rest) := by
  intro before middle after same middleFree
  by_cases later : feed ∈ before
  · -- The line in front ends within what stands before the other one.
    obtain ⟨start, more, rfl, startFree⟩ := List.eq_append_cons_of_mem later
    simp only [List.append_assoc, List.cons_append] at same
    obtain ⟨_, rfl⟩ := split_of_free free startFree same
    exact within more middle after (by simp) middleFree
  · -- The other line is a part of the line in front.
    have wholeFree : feed ∉ before ++ middle := by simp [later, middleFree]
    obtain ⟨rfl, _⟩ := split_of_free free wholeFree same
    rw [List.length_append] at short
    omega

end Line

/-- A reading that gives a result wherever certain bytes come first, in whatever pieces, and takes
them and nothing behind them. -/
def Arrives {α : Type} (reading : Reading α) (encoding : Encoding) (a : α) (frame : Bytes) :
    Prop :=
  ∀ ⦃r : Reader⦄ ⦃rest : Bytes⦄, r.encoding = encoding → r.coming = frame ++ rest →
    ∃ after, reading r = (.ok a, after) ∧ after.coming = rest ∧
      r.unread = frame ++ after.unread ∧ after.encoding = encoding

/-- Bytes that read back as a result, with whatever is unread behind them left, if only they come
whole. -/
def ReadsBack {α : Type} (reading : Reading α) (encoding : Encoding) (a : α) (frame : Bytes) :
    Prop :=
  ∀ ⦃r : Reader⦄ ⦃rest : Bytes⦄, r.encoding = encoding → r.unread = frame ++ rest →
    frame <+: r.coming → ∃ after, reading r = (.ok a, after) ∧ after.unread = rest

namespace Arrives

variable {α β : Type} {encoding : Encoding} {a : α} {b : β} {front back : Bytes}

/-- What is read one after the other comes one behind the other. -/
theorem bind {x : Reading α} {next : α → Reading β} (first : Arrives x encoding a front)
    (second : Arrives (next a) encoding b back) :
    Arrives (x >>= next) encoding b (front ++ back) := by
  -- The first part leaves the second part's bytes at the front of what is left.
  intro r rest kept comes
  rw [List.append_assoc] at comes
  obtain ⟨middle, read, comes, whole, kept⟩ := first kept comes
  obtain ⟨after, reads, behind, left, kept⟩ := second kept comes
  refine ⟨after, Step.bind_eq_ok.mpr ⟨a, middle, read, reads⟩, behind, ?_, kept⟩
  rw [whole, left, List.append_assoc]

/-- What is known takes no bytes. -/
theorem pure (a : α) : Arrives (Pure.pure a : Reading α) encoding a [] :=
  -- Nothing is read, so that the reader and its encoding stay.
  fun r _ kept comes => ⟨r, rfl, comes, rfl, kept⟩

/-- What is made of something known takes no bytes. -/
theorem ofExcept {result : Except WireError α} (success : result = .ok a) :
    Arrives (Step.ofExcept result : Reading α) encoding a [] := by
  -- The result is known, so that this is the case before.
  subst success
  exact pure a

/-- What is made of what was read takes no more bytes. -/
theorem bind_nil {x : Reading α} {next : α → Reading β} (first : Arrives x encoding a front)
    (second : Arrives (next a) encoding b []) : Arrives (x >>= next) encoding b front := by
  -- No bytes behind are no bytes at all.
  have whole := first.bind second
  rwa [List.append_nil] at whole

/-- What is known before takes no bytes of what is read. -/
theorem nil_bind {x : Reading α} {next : α → Reading β} (first : Arrives x encoding a [])
    (second : Arrives (next a) encoding b back) : Arrives (x >>= next) encoding b back :=
  -- As above, with the bytes of the first part.
  first.bind second

/-- What is read where it comes first is read back. -/
theorem readsBack {reading : Reading α} {frame : Bytes}
    (arrives : Arrives reading encoding a frame) : ReadsBack reading encoding a frame := by
  rintro r rest kept whole ⟨later, comes⟩
  obtain ⟨after, read, _, left, _⟩ := arrives kept comes.symm
  -- As the bytes are taken from the front, what was behind them is left.
  rw [whole] at left
  exact ⟨after, read, (List.append_cancel_left left).symm⟩

end Arrives

namespace Reader

variable {encoding : Encoding}

/-- The bytes of a line within the limit that comes whole are read. -/
theorem readLineBytes_arrives {raw : Bytes} (free : Line.feed ∉ raw)
    (short : raw.length ≤ Line.maxLength) :
    Arrives readLineBytes encoding (dropCarriageReturn raw) (raw ++ [Line.feed]) := by
  intro r rest kept comes
  rw [List.append_assoc, List.singleton_append] at comes
  obtain ⟨after, read, behind⟩ := readLineBytes_coming free short comes
  have same := readLineBytes_encoding r
  rw [read] at same
  -- All that comes is unread, so the line that was taken is the one that has come.
  obtain ⟨raw', free', _, front⟩ := readLineBytes_ok read
  obtain ⟨more, all⟩ := r.coming_prefix
  rw [comes, front, List.append_assoc, List.cons_append] at all
  obtain ⟨rfl, _⟩ := split_of_free free free' all
  exact ⟨after, read, behind, by simp [front], same.trans kept⟩

/-- A line that comes whole is read. -/
theorem readLine_arrives {text : Text} {frame : Bytes} (line : LineFrame encoding text frame)
    (within : Line.Within frame) : Arrives readLine encoding text frame := by
  intro r rest kept comes
  obtain ⟨raw, free, rfl, rfl⟩ := line
  have short : raw.length ≤ Line.maxLength := within [] raw [] (by simp) free
  obtain ⟨after, read, behind, unread, same⟩ := readLineBytes_arrives free short kept comes
  -- The text is that of the bytes in the encoding of the reader.
  refine ⟨after, ?_, behind, unread, same⟩
  simp only [readLine, read, same]

/-- Bytes within the limit that come whole are read. -/
theorem readExact_arrives {bytes : Bytes} (small : bytes.length ≤ Chunk.maxSize) :
    Arrives (readExact bytes.length) encoding bytes bytes := by
  -- The bytes have come, so that the reading takes them without waiting.
  intro r rest kept comes
  obtain ⟨after, read, behind⟩ := readExact_coming small comes
  have same := readExact_encoding r bytes.length
  rw [read] at same
  exact ⟨after, read, behind, readExact_ok read, same.trans kept⟩

/-- A status line that comes whole is read. -/
theorem readStatus_arrives {parts : Status × Text} {frame : Bytes}
    (status : StatusFrame encoding parts frame) (within : Line.Within frame) :
    Arrives readStatus encoding parts frame := by
  -- Understanding the line that was read takes no bytes.
  obtain ⟨line, isLine, parsed⟩ := status
  exact (readLine_arrives isLine within).bind_nil (.ofExcept parsed)

/-- A sentinel that comes whole is read. -/
theorem expectSentinel_arrives {frame : Bytes}
    (sentinel : LineFrame encoding Line.sentinel frame) (within : Line.Within frame) :
    Arrives expectSentinel encoding () frame := by
  refine (readLine_arrives sentinel within).bind_nil ?_
  -- No other line than the sentinel has come.
  rw [if_neg (fun other => other rfl)]
  exact .pure ()

/-- A payload that comes whole is read, behind the lines at hand. -/
theorem readLinesAfter_arrives {lines : List Text} {frame : Bytes}
    (payload : PayloadFrame encoding lines frame) (within : Line.Within frame)
    (atHand : List Text) :
    Arrives (readLinesAfter atHand) encoding (atHand.reverse ++ lines) frame := by
  -- Each line that is read joins those at hand, and the sentinel ends the payload.
  induction payload generalizing atHand with
  | sentinel last =>
    rw [readLinesAfter_eq, List.append_nil]
    refine (readLine_arrives last within).bind_nil ?_
    simp only [if_true]
    exact .pure _
  | @line text lines first rest head notLast tail ih =>
    have others := ih within.back (Line.unstuff text :: atHand)
    rw [List.reverse_cons, List.append_assoc, List.singleton_append] at others
    rw [readLinesAfter_eq]
    refine (readLine_arrives head within.front).bind ?_
    simpa only [notLast, if_false] using others

/-- A response that carries lines is read once it has come whole. -/
theorem readResponse_arrives {response : Response} {frame : Bytes}
    (isResponse : ResponseFrame encoding response frame) (within : Line.Within frame) :
    Arrives readResponse encoding response frame := by
  -- A response with lines is a status line and a payload, in this order.
  cases isResponse with
  | lines head payload =>
    refine (readStatus_arrives head within.front).bind ?_
    exact (readLinesAfter_arrives payload within.back []).bind_nil (.pure _)

end Reader
end AmigaRemote
