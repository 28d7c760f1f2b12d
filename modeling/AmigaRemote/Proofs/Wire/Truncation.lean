import AmigaRemote.Proofs.Wire.Promptness

/-! A response of which the end is missing is never taken for a whole one, and where it is cut off
shows in what is reported. -/

namespace AmigaRemote

/-- What a response is asked for with: its payload decides. -/
def Response.request (response : Response) : ReadRequest :=
  match response.payload with
  | .lines _ => .response
  | .binary _ => .chunkedResponse

/-- A response that is read back from the bytes it is written as. -/
structure Response.RoundTrips (response : Response) (encoding : Encoding) (chunkSize : Nat)
    (bytes : Bytes) : Prop where
  written : response.encode encoding chunkSize = .ok bytes
  read : ∃ r after, r.encoding = encoding ∧ r.unread = bytes ∧
    response.request.perform r = (.ok (.response response), after) ∧ after.unread = []

namespace Response.RoundTrips

variable {response : Response} {encoding : Encoding} {chunkSize : Nat} {bytes : Bytes}

/-- The bytes are laid out as the response says. -/
theorem laid (returns : response.RoundTrips encoding chunkSize bytes) :
    ∃ layout, response.request.Lays encoding (.response response) layout ∧ layout.bytes = bytes := by
  obtain ⟨r, after, rfl, unread, read, nothing⟩ := returns.read
  -- Nothing is left, so all of the bytes were taken.
  have consumed : r.unread = bytes ++ after.unread := by rw [nothing, unread, List.append_nil]
  exact ReadRequest.laid_of_perform read consumed

/-- A response that is written as bytes and read back from them is not read from fewer of them, in
whatever pieces these come before the stream ends. The bytes are laid out in lines and, behind each
header, as many bytes as it announces, and what is reported is where the layout is cut: that the
stream has ended, after a whole line or all that a header announces, and otherwise what has come of
a line or of the bytes announced. Nothing is left over. Only a line above the limit could make a
difference. -/
theorem perform_truncated (returns : response.RoundTrips encoding chunkSize bytes)
    (short : ∀ layout, response.request.Lays encoding (.response response) layout →
      layout.bytes = bytes → layout.Short) :
    (∃ layout, response.request.Lays encoding (.response response) layout ∧ layout.bytes = bytes) ∧
    ∀ layout, response.request.Lays encoding (.response response) layout → layout.bytes = bytes →
      ∀ k < bytes.length, ∀ r : Reader, r.encoding = encoding → r.source.Reliable →
        r.unread = bytes.take k →
        ∃ after, response.request.perform r = (.error (layout.cutAt encoding k), after) ∧
          after.unread = [] := by
  refine ⟨returns.laid, ?_⟩
  rintro layout lays rfl k below r kept reliable unread
  -- What is missing is all that comes behind the first bytes, and it is not nothing.
  have some : layout.bytes.drop k ≠ [] := by
    rw [ne_eq, List.drop_eq_nil_iff]
    omega
  have cut : r.unread ++ layout.bytes.drop k = layout.bytes := by
    rw [unread, List.take_append_drop]
  have size : r.unread.length = k := by
    rw [unread, List.length_take]
    omega
  have failed := lays.asks.truncated (short layout lays rfl) kept reliable some cut
  rwa [size] at failed

/-- Data in two chunks that is cut off within the first is reported with how much of that chunk has
come, wherever reads were interrupted. -/
theorem perform_truncated_chunk :
    ∃ after, ReadRequest.chunkedResponse.perform ⟨[79, 75, 32],
          ⟨[.bytes [120, 10, 68, 65] (by decide), .fault (.ofKind .interrupted),
            .bytes [84, 65, 32, 50, 10, 46] (by decide)], .closed⟩, .latin1⟩
        = (.error (.closedMidChunk 2 1), after) ∧ after.unread = [] := by
  -- The layout of the whole response is written down first.
  have head : StatusLayout .latin1 (.ok, ['x']) [.line [79, 75, 32, 120]] :=
    .line ⟨by decide, rfl⟩ (.withInfo [120])
  have two : HeaderLine 2 [68, 65, 84, 65, 32, 50] := ⟨_, Decimal.spells_ofNat 2, rfl⟩
  have one : HeaderLine 1 [68, 65, 84, 65, 32, 49] := ⟨_, Decimal.spells_ofNat 1, rfl⟩
  have first : ChunkLayout .latin1 (.data [46, 10])
      [.line [68, 65, 84, 65, 32, 50], .counted [46, 10]] :=
    .data ⟨by decide, rfl⟩ two (by decide)
  have second : ChunkLayout .latin1 (.data [65])
      [.line [68, 65, 84, 65, 32, 49], .counted [65]] :=
    .data ⟨by decide, rfl⟩ one (by decide)
  have last : ChunkLayout .latin1 .ended [.line [69, 78, 68], .line [46]] :=
    .ended ⟨by decide, rfl⟩ (.line ⟨by decide, rfl⟩)
  have lays : ReadRequest.chunkedResponse.Lays .latin1
      (.response (.okBinary ['x'] [46, 10, 65])) _ :=
    .chunkedResponse (.transferred head (.chunk first (.chunk second (.ended last))))
  -- The response is one that round-trips in chunks of two bytes.
  have returns : (Response.okBinary ['x'] [46, 10, 65]).RoundTrips .latin1 2
      [79, 75, 32, 120, 10, 68, 65, 84, 65, 32, 50, 10, 46, 10, 68, 65, 84, 65, 32, 49, 10, 65,
        69, 78, 68, 10, 46, 10] :=
    ⟨by cbv, _, _, rfl, rfl, lays.asks.ready [] ⟨[], .closed⟩, rfl⟩
  have cut := (perform_truncated returns fun layout _ same =>
    Layout.short_of_length_le (same ▸ by decide)).2 _ lays rfl
  -- Thirteen bytes of it come, which is in the middle of the first body.
  exact cut 13 (by decide) _ rfl ⟨by decide, rfl⟩ rfl

end Response.RoundTrips
end AmigaRemote
