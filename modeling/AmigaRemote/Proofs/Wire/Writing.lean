import AmigaRemote.Proofs.Wire.LineRoundTrip

/-! A response that is put into a buffer part by part is put there as it is encoded at once. -/

namespace AmigaRemote

/-- An act of writing that puts certain bytes behind whatever is in the buffer. -/
def Puts (act : Step Bytes WireError Unit) (bytes : Bytes) : Prop :=
  ∀ before, act before = (.ok (), before ++ bytes)

namespace Puts

/-- Bytes are put as they are. -/
theorem put (bytes : Bytes) : Puts (Response.put bytes) bytes :=
  -- Putting is appending.
  fun _ => rfl

/-- A text that has bytes is put as them. -/
theorem putText {encoding : Encoding} {text : Text} {bytes : Bytes}
    (encoded : encoding.encode text = .ok bytes) : Puts (Response.putText encoding text) bytes := by
  intro before
  -- The text has bytes, so that no failure comes of it.
  unfold Response.putText
  rw [encoded]
  rfl

/-- To put nothing leaves the buffer as it is. -/
theorem nothing : Puts (pure ()) [] := by
  intro before
  -- Nothing is put behind the buffer.
  rw [List.append_nil]
  rfl

/-- What is put later stands behind what was put before. -/
theorem andThen {first second : Step Bytes WireError Unit} {front back : Bytes}
    (isFirst : Puts first front) (isSecond : Puts second back) :
    Puts (first >>= fun _ => second) (front ++ back) := by
  intro before
  -- The second part finds the buffer with the bytes of the first.
  rw [Step.bind_apply, isFirst, ← List.append_assoc]
  exact isSecond _

end Puts

namespace Response

variable {encoding : Encoding}

/-- A line is put as its text and a line end. -/
theorem puts_line {text : Text} {bytes : Bytes} (encoded : encodeLine encoding text = .ok bytes) :
    Puts (do putText encoding text; put [Line.feed]) bytes := by
  -- The text and the line feed are put in turn.
  obtain ⟨raw, written, rfl⟩ := encodeLine_eq_ok.mp encoded
  exact (Puts.putText written).andThen (.put _)

/-- Lines are put one behind the other. -/
theorem puts_lines {lines : List Text} {parts : List Bytes}
    (encoded : encodeLines encoding lines = .ok parts) :
    Puts (lines.forM fun line => do putText encoding (Line.stuff line); put [Line.feed])
      parts.flatten := by
  -- By induction on the lines.
  induction lines generalizing parts with
  | nil =>
    cases encoded
    exact .nothing
  | cons line lines ih =>
    obtain ⟨first, others, head, tail, rfl⟩ := encodeLines_cons.mp encoded
    exact (puts_line head).andThen (ih tail)

/-- A status line is put word by word as it is encoded at once. -/
theorem puts_status {status : Status} {info : Text} {bytes : Bytes}
    (encoded : encodeLine encoding (status.line info) = .ok bytes) :
    Puts (putStatus encoding status info) bytes := by
  obtain ⟨raw, written, rfl⟩ := encodeLine_eq_ok.mp encoded
  unfold putStatus
  unfold Status.line at written
  by_cases none : info = []
  · rw [if_pos none, Encoding.encode_of_plain status.word_plain] at written
    cases written
    rw [if_neg (not_not_intro none)]
    exact (Puts.put _).andThen (.put _)
  · -- The word and the space are plain, so only the info can be without bytes.
    have spaced : status.word ++ ' ' :: info = (status.word ++ [' ']) ++ info := by simp
    have plain : ∀ c ∈ status.word ++ [' '], c.toNat < 0x80 := by
      intro c member
      rcases List.mem_append.mp member with inWord | isSpace
      · exact status.word_plain c inWord
      · rw [List.mem_singleton.mp isSpace]
        decide
    rw [if_neg none, spaced, Encoding.encode_plain_append plain] at written
    obtain ⟨back, written, rfl⟩ := written
    rw [if_pos none]
    have whole := (Puts.put (status.word.map fun c => UInt8.ofNat c.toNat)).andThen
      ((Puts.put [32]).andThen ((Puts.putText written).andThen (.put [Line.feed])))
    simpa using whole

/-- A payload is put as it is encoded. -/
theorem puts_payload {chunkSize : Nat} {r : Response} {bytes : Bytes}
    (encoded : r.encodePayload encoding chunkSize = .ok bytes) :
    Puts (r.putPayload encoding chunkSize) bytes := by
  obtain ⟨status, info, payload⟩ := r
  cases payload with
  | lines lines =>
    have lines' : encodeLines encoding lines >>= (fun parts => pure parts.flatten) = .ok bytes := by
      cases status <;> exact encoded
    obtain ⟨parts, written, same⟩ := Except.bind_eq_ok.mp lines'
    cases same
    cases status <;> exact puts_lines written
  | binary data =>
    -- Data has bytes anyway, and an error puts none of it.
    cases status with
    | ok =>
      cases encoded
      exact .put _
    | err =>
      cases encoded
      exact .nothing

/-- A response that has bytes is put behind what is in the buffer, as it is encoded. -/
theorem puts_encodeInto {chunkSize : Nat} {r : Response} {bytes : Bytes}
    (encoded : r.encode encoding chunkSize = .ok bytes) :
    Puts (r.encodeInto encoding chunkSize) bytes := by
  unfold encode at encoded
  -- The encoding is taken apart: the status, the payload, the sentinel.
  obtain ⟨first, head, encoded⟩ := Except.bind_eq_ok.mp encoded
  obtain ⟨middle, body, same⟩ := Except.bind_eq_ok.mp encoded
  cases same
  rw [List.append_assoc]
  exact (puts_status head).andThen ((puts_payload body).andThen (.put _))

end Response
end AmigaRemote
