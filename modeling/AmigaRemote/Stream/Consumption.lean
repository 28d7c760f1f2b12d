import AmigaRemote.Stream.Session

/-! Every event of a stream takes bytes from the connection. Hence reading a stream to its end
ends. -/

namespace AmigaRemote

/-- Going back to commands leaves no more unread. -/
theorem Connection.leaveStream_shortens {crossedStop : Bool} {c after : Connection}
    (left : Connection.leaveStream crossedStop c = (.ok (), after)) :
    after.unread.length ≤ c.unread.length := by
  -- To set a limit reads nothing. Only the reply to a late stop does.
  obtain ⟨_, _, got, rest⟩ := Step.bind_eq_ok.mp left
  cases got
  obtain ⟨_, _, set, rest⟩ := Step.bind_eq_ok.mp rest
  cases set
  cases crossedStop with
  | false =>
    cases rest
    exact Nat.le_refl _
  | true =>
    obtain ⟨_, _, received, done⟩ := Step.bind_eq_ok.mp rest
    cases done
    exact Nat.le_of_lt (Reader.readResponse_shortens (Connection.receive_ok received).1)

namespace Session

/-- What succeeded over the connection of a session succeeds on the connection alone. -/
theorem onConnection_ok {α : Type} {client : Client α} {s after : Session} {a : α}
    (done : onConnection client s = (.ok a, after)) :
    client s.connection = (.ok a, after.connection) ∧ after.stream = s.stream := by
  -- The stream is put back as it was.
  simp only [onConnection, Prod.mk.injEq] at done
  obtain ⟨result, rfl⟩ := done
  exact ⟨Prod.ext result rfl, rfl⟩

/-- A chunk that was taken leaves less unread. -/
theorem awaitChunk_shortens {s after : Session} {chunk : Chunk}
    (taken : awaitChunk s = (.ok chunk, after)) : after.unread.length < s.unread.length := by
  -- A chunk has four bytes of length at least.
  simp only [awaitChunk, Prod.mk.injEq] at taken
  obtain ⟨found, rfl⟩ := taken
  exact Reader.readChunk_shortens (Prod.ext found rfl)

/-- Going back to commands leaves no more unread. -/
theorem finish_shortens {s after : Session} (finished : finish s = (.ok (), after)) :
    after.unread.length ≤ s.unread.length := by
  -- It succeeds only where the connection could be taken back to commands.
  simp only [finish] at finished
  split at finished
  · rename_i left
    cases finished
    exact Connection.leaveStream_shortens (onConnection_ok left).1
  · simp [Step.bind_apply, enter, update] at finished

/-- What a chunk means leaves no more unread. -/
theorem process_shortens {taken : Except WireError Chunk} {s after : Session} {event : StreamEvent}
    (processed : process taken s = (.ok event, after)) :
    after.unread.length ≤ s.unread.length := by
  match taken with
  | .error e =>
    -- A failure gives no event.
    obtain ⟨_, _, set, rest⟩ := Step.bind_eq_ok.mp processed
    have := (Connection.guard_ok (onConnection_ok rest).1).1
    simp at this
  | .ok (.data bytes) =>
    obtain ⟨_, _, got, rest⟩ := Step.bind_eq_ok.mp processed
    cases got
    -- To look at the event touches the stream alone.
    obtain ⟨_, _, watched, done⟩ := Step.bind_eq_ok.mp rest
    cases watched
    cases done
    exact Nat.le_refl _
  | .ok .ended =>
    obtain ⟨_, _, set, rest⟩ := Step.bind_eq_ok.mp processed
    cases set
    obtain ⟨_, _, finished, done⟩ := Step.bind_eq_ok.mp rest
    cases done
    have fewer := finish_shortens finished
    exact fewer
  | .ok (.aborted e) =>
    obtain ⟨_, _, set, rest⟩ := Step.bind_eq_ok.mp processed
    cases set
    obtain ⟨_, _, finished, done⟩ := Step.bind_eq_ok.mp rest
    cases done
    have fewer := finish_shortens finished
    exact fewer

/-- Every event takes a chunk. -/
theorem nextEvent_shortens {s after : Session} {event : StreamEvent}
    (found : nextEvent s = (.ok (some event), after)) :
    after.unread.length < s.unread.length := by
  simp only [nextEvent] at found
  split at found
  · simp at found
  -- The chunk was taken before anyone looked at what it means.
  · obtain ⟨e, next, processed, done⟩ := Step.bind_eq_ok.mp found
    cases done
    have fewer := process_shortens processed
    match taken : awaitChunk s with
    | (.ok chunk, next) =>
      rw [taken] at fewer
      exact Nat.lt_of_le_of_lt fewer (awaitChunk_shortens taken)
    | (.error e, next) =>
      rw [taken] at processed
      obtain ⟨_, _, set, rest⟩ := Step.bind_eq_ok.mp processed
      have := (Connection.guard_ok (onConnection_ok rest).1).1
      simp at this

end Session
end AmigaRemote
