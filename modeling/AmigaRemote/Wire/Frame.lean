import AmigaRemote.Wire.Consumption

/-! Reading responses. Each reading consumes exactly one unit of the protocol: a status line, the
lines of a payload, a step of a transfer, a whole response. -/

namespace AmigaRemote

namespace Reader

/-- A status line. -/
def readStatus : Reading (Status × Text) := do
  let line ← readLine
  Step.ofExcept (Status.parseLine line)

/-- The sentinel, and nothing else. -/
def expectSentinel : Reading Unit := do
  let line ← readLine
  if line ≠ Line.sentinel then throw (.unexpectedLine line)

/-- Payload lines up to and including the sentinel. Those already read are at hand, last one
first. -/
def readLinesAfter (lines : List Text) (r : Reader) : Except WireError (List Text) × Reader :=
  match read : readLine r with
  | (.error e, r) => (.error e, r)
  | (.ok line, after) =>
    -- The sentinel is looked for before a dot is taken away, so a payload line may be one dot.
    if line = Line.sentinel then (.ok lines.reverse, after)
    else
      have := readLine_shortens read
      readLinesAfter (Line.unstuff line :: lines) after
termination_by r.unread.length

/-- A payload is a line and, unless that is the sentinel, the rest of the payload. -/
theorem readLinesAfter_eq (lines : List Text) :
    readLinesAfter lines = (readLine >>= fun line r =>
      if line = Line.sentinel then (.ok lines.reverse, r)
      else readLinesAfter (Line.unstuff line :: lines) r : Reading (List Text)) := by
  funext r
  rw [readLinesAfter]
  refine .trans ?_ (Step.bind_apply readLine _ r).symm
  -- Either there is no line, or it decides how to go on.
  split
  all_goals
    rename_i found
    simp only [found]

/-- Payload lines up to and including the sentinel. -/
def readLines : Reading (List Text) :=
  readLinesAfter []

/-- One step of a transfer. -/
def readChunk : Reading Chunk := do
  let line ← readLine
  -- A line that begins like a header has to be one.
  match ← Step.ofExcept (Chunk.parseHeader line) with
  | some length => return .data (← readExact length)
  | none =>
    if line = Chunk.endLine then
      expectSentinel
      return .ended
    -- An error takes the place of what was to come. Success has no place here.
    else match Status.parseLine line with
      | .ok (.err, info) =>
        expectSentinel
        return .aborted (.ofInfo info)
      | _ => throw (.unexpectedLine line)

/-- A response that carries lines. -/
def readResponse : Reading Response := do
  let (status, info) ← readStatus
  let lines ← readLines
  return ⟨status, info, .lines lines⟩

/-- Payload lines are lines, and so is the sentinel. -/
theorem readLinesAfter_shortens {lines all : List Text} {r after : Reader}
    (read : readLinesAfter lines r = (.ok all, after)) :
    after.unread.length < r.unread.length := by
  fun_induction readLinesAfter lines r with
  | case1 => simp at read
  | case2 lines r next found =>
    -- The sentinel was read, which is a line.
    cases read
    exact readLine_shortens found
  | case3 lines r line next found _ shorter ih => exact Nat.lt_trans (ih read) shorter

/-- A status line is a line. -/
theorem readStatus_shortens {r after : Reader} {parts : Status × Text}
    (read : readStatus r = (.ok parts, after)) : after.unread.length < r.unread.length := by
  -- Understanding the line reads nothing more.
  obtain ⟨line, next, first, rest⟩ := Step.bind_eq_ok.mp read
  obtain ⟨_, rfl⟩ := Prod.mk.inj rest
  exact readLine_shortens first

/-- A response takes a line at least. -/
theorem readResponse_shortens {r after : Reader} {response : Response}
    (read : readResponse r = (.ok response, after)) :
    after.unread.length < r.unread.length := by
  -- The status line takes bytes already, and the payload only takes more.
  obtain ⟨⟨status, info⟩, next, first, rest⟩ := Step.bind_eq_ok.mp read
  obtain ⟨lines, last, second, done⟩ := Step.bind_eq_ok.mp rest
  cases done
  exact Nat.lt_trans (readLinesAfter_shortens second) (readStatus_shortens first)

/-- The sentinel is a line. -/
theorem expectSentinel_shortens {r after : Reader} (read : expectSentinel r = (.ok (), after)) :
    after.unread.length < r.unread.length := by
  -- The line that was read is the sentinel, or the reading would have failed.
  obtain ⟨line, next, first, rest⟩ := Step.bind_eq_ok.mp read
  split at rest
  · simp at rest
  · cases rest
    exact readLine_shortens first

/-- Every step of a transfer takes a line at least. -/
theorem readChunk_shortens {r after : Reader} {chunk : Chunk}
    (read : readChunk r = (.ok chunk, after)) : after.unread.length < r.unread.length := by
  obtain ⟨line, next, first, rest⟩ := Step.bind_eq_ok.mp read
  have shorter := readLine_shortens first
  obtain ⟨header, same, parsed, rest⟩ := Step.bind_eq_ok.mp rest
  obtain ⟨_, rfl⟩ := Prod.mk.inj parsed
  cases header with
  | some length =>
    obtain ⟨bytes, last, exact_, done⟩ := Step.bind_eq_ok.mp rest
    cases done
    exact Nat.lt_of_le_of_lt (readExact_shortens exact_) shorter
  | none =>
    by_cases isEnd : line = Chunk.endLine
    · simp only [isEnd, if_true] at rest
      obtain ⟨_, last, ended, done⟩ := Step.bind_eq_ok.mp rest
      cases done
      exact Nat.lt_trans (expectSentinel_shortens ended) shorter
    · simp only [isEnd, if_false] at rest
      -- Only an error line leads on to a sentinel.
      cases status : Status.parseLine line with
      | error e => simp [status] at rest
      | ok parts =>
        rcases parts with ⟨_ | _, info⟩
        · simp [status] at rest
        · simp only [status] at rest
          obtain ⟨_, last, ended, done⟩ := Step.bind_eq_ok.mp rest
          cases done
          exact Nat.lt_trans (expectSentinel_shortens ended) shorter

/-- A transfer to its end, after an OK status line. Its data so far is at hand, last chunk first.
An error in place of a chunk makes an error of the whole, which keeps the data before it. -/
def readTransferAfter (info : Text) (chunks : List Bytes) (r : Reader) :
    Except WireError Response × Reader :=
  match read : readChunk r with
  | (.error e, r) => (.error e, r)
  | (.ok (.data bytes), after) =>
    have := readChunk_shortens read
    readTransferAfter info (bytes :: chunks) after
  | (.ok .ended, r) => (.ok (.okBinary info chunks.reverse.flatten), r)
  -- The status line said otherwise, but the daemon's last word counts.
  | (.ok (.aborted e), r) => (.ok ⟨.err, e.info, .binary chunks.reverse.flatten⟩, r)
termination_by r.unread.length

/-- A transfer is a step and, unless that ends it, the rest of the transfer. -/
theorem readTransferAfter_eq (info : Text) (chunks : List Bytes) :
    readTransferAfter info chunks = (readChunk >>= fun
      | .data bytes => readTransferAfter info (bytes :: chunks)
      | .ended => pure (.okBinary info chunks.reverse.flatten)
      | .aborted e => pure ⟨.err, e.info, .binary chunks.reverse.flatten⟩ : Reading Response) := by
  -- A function and its recursive equation agree at each reader, whatever the next chunk is.
  funext r
  rw [readTransferAfter]
  refine .trans ?_ (Step.bind_apply readChunk _ r).symm
  split
  all_goals
    rename_i found
    simp only [found]
  all_goals rfl

/-- A response that carries data. If it reports an error, lines may follow it. -/
def readChunkedResponse : Reading Response := do
  match ← readStatus with
  -- Nothing but lines follows a refusal.
  | (.err, info) => return ⟨.err, info, .lines (← readLines)⟩
  | (.ok, info) => readTransferAfter info []

end Reader

end AmigaRemote
