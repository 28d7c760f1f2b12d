import AmigaRemote.Proofs.Stream.Crossing
import AmigaRemote.Proofs.Wire.Expected

/-! What a session still has to read of its stream, whatever has crossed with a stop: the shapes
that the daemon's contract leaves, and how each of the daemon's steps continues them. -/

namespace AmigaRemote

/-- What a daemon sends on account of a stream. -/
inductive Item where
  | chunk (chunk : Chunk)
  /-- The answer to a stop that came after the end. -/
  | reply

/-- Bytes that are these items, one after the other. -/
inductive Carries (encoding : Encoding) : List Item → Bytes → Prop where
  | nothing : Carries encoding [] []
  | chunk {chunk : Chunk} {items : List Item} {first rest : Bytes}
    (head : ChunkFrame encoding chunk first) (tail : Carries encoding items rest) :
    Carries encoding (.chunk chunk :: items) (first ++ rest)
  | reply {response : Response} {items : List Item} {first rest : Bytes}
    (head : ResponseFrame encoding response first) (tail : Carries encoding items rest) :
    Carries encoding (.reply :: items) (first ++ rest)

namespace Carries

variable {encoding : Encoding} {items : List Item} {bytes frame : Bytes}

/-- Items carried behind others are carried in order. -/
theorem append {more : List Item} {later : Bytes} (first : Carries encoding items bytes)
    (second : Carries encoding more later) : Carries encoding (items ++ more) (bytes ++ later) := by
  -- The items that come first are taken off one by one.
  induction first with
  | nothing => exact second
  | chunk head _ ih =>
    rw [List.append_assoc]
    exact .chunk head ih
  | reply head _ ih =>
    rw [List.append_assoc]
    exact .reply head ih

/-- A single chunk is carried by its frame. -/
theorem single_chunk {chunk : Chunk} (isChunk : ChunkFrame encoding chunk frame) :
    Carries encoding [.chunk chunk] frame := by
  -- Nothing is carried behind it.
  have carried := Carries.chunk isChunk .nothing
  rw [List.append_nil] at carried
  exact carried

/-- A single reply is carried by its frame. -/
theorem single_reply {response : Response} (isResponse : ResponseFrame encoding response frame) :
    Carries encoding [.reply] frame := by
  -- As for a chunk.
  have carried := Carries.reply isResponse .nothing
  rw [List.append_nil] at carried
  exact carried

/-- No items are no bytes. -/
theorem of_nil (carried : Carries encoding [] bytes) : bytes = [] := by
  -- Each of the other constructors carries an item.
  cases carried
  rfl

/-- A chunk that comes first is a frame at the front. -/
theorem of_chunk {chunk : Chunk} (carried : Carries encoding (.chunk chunk :: items) bytes) :
    ∃ first rest, ChunkFrame encoding chunk first ∧ Carries encoding items rest ∧
      bytes = first ++ rest := by
  -- The items decide which constructor it was.
  cases carried with
  | chunk head tail => exact ⟨_, _, head, tail, rfl⟩

/-- A reply that comes first is a frame at the front. -/
theorem of_reply (carried : Carries encoding (.reply :: items) bytes) :
    ∃ response first rest, ResponseFrame encoding response first ∧ Carries encoding items rest ∧
      bytes = first ++ rest := by
  -- As for a chunk.
  cases carried with
  | reply head tail => exact ⟨_, _, _, head, tail, rfl⟩

end Carries

/-- What becomes of a stop that comes after the end of the stream: none was sent, or one that the
daemon has still to get, or one that it has answered. -/
inductive Late : Bool → Bool → List Item → Prop where
  | unsent : Late false false []
  | onItsWay : Late true true []
  | answered : Late true false [.reply]

/-- What is ahead of a session that has seen no end and no notice of one, by whether it sent a stop
and whether that is still on its way. -/
inductive Ahead (exits : Bytes → Prop) : Duty → Bool → Bool → List Item → Prop where
  /-- Nothing yet. A stop that was sent is on its way. -/
  | streaming {sent : Bool} : Ahead exits .streaming sent sent []
  /-- The end with which the daemon answers a stop. -/
  | stopped : Ahead exits .commands true false [.chunk .ended]
  /-- An error, and what becomes of a stop. -/
  | aborted {e : DaemonError} {sent onItsWay : Bool} {rest : List Item}
    (late : Late sent onItsWay rest) :
    Ahead exits .commands sent onItsWay (.chunk (.aborted e) :: rest)
  /-- The notice of an exit, the end that follows it, and what becomes of a stop. -/
  | exited {bytes : Bytes} {sent onItsWay : Bool} {rest : List Item} (tells : exits bytes)
    (late : Late sent onItsWay rest) :
    Ahead exits .commands sent onItsWay (.chunk (.data bytes) :: .chunk .ended :: rest)
  /-- Data, and more behind it. -/
  | data {bytes : Bytes} {duty : Duty} {sent onItsWay : Bool} {rest : List Item}
    (ordinary : ¬exits bytes) (later : Ahead exits duty sent onItsWay rest) :
    Ahead exits duty sent onItsWay (.chunk (.data bytes) :: rest)

namespace Late

variable {sent onItsWay : Bool} {items : List Item}

/-- With no stop sent nothing is to come of one. -/
theorem of_unsent (late : Late false onItsWay items) : onItsWay = false ∧ items = [] := by
  -- The two other fates suppose that the stop was sent.
  cases late
  exact ⟨rfl, rfl⟩

/-- A stop that was sent is on its way or was answered. -/
theorem of_sent (late : Late true onItsWay items) :
    onItsWay = true ∧ items = [] ∨ onItsWay = false ∧ items = [.reply] := by
  -- The case in which none was sent is excluded.
  cases late
  · exact .inl ⟨rfl, rfl⟩
  · exact .inr ⟨rfl, rfl⟩

/-- A stop that is sent now is on its way. -/
theorem send (late : Late false onItsWay items) : Late true true items := by
  -- The old fate was that there was none.
  cases late
  exact .onItsWay

/-- A stop that was sent before the end is on its way when the daemon ends the stream by itself. -/
theorem at_end (sent : Bool) : Late sent sent [] := by
  -- Only a stop that was sent can be on its way.
  cases sent
  · exact .unsent
  · exact .onItsWay

/-- A stop that the daemon gets now is answered. -/
theorem answer (late : Late sent true items) : Late sent false (items ++ [.reply]) := by
  -- One that is on its way is neither unsent nor answered already.
  cases late
  exact .answered

end Late

namespace Ahead

variable {exits : Bytes → Prop} {duty : Duty} {sent onItsWay : Bool} {items : List Item}

/-- What comes first is a chunk, if anything comes. -/
theorem head (ahead : Ahead exits duty sent onItsWay items) :
    items = [] ∨ ∃ chunk rest, items = .chunk chunk :: rest := by
  -- Whatever is ahead begins with a chunk.
  cases ahead with
  | streaming => exact .inl rfl
  | stopped => exact .inr ⟨_, _, rfl⟩
  | aborted => exact .inr ⟨_, _, rfl⟩
  | exited => exact .inr ⟨_, _, rfl⟩
  | data => exact .inr ⟨_, _, rfl⟩

/-- An end without a notice answers the stop, and nothing comes after it. -/
theorem of_ended (ahead : Ahead exits duty sent onItsWay (.chunk .ended :: items)) :
    duty = .commands ∧ sent = true ∧ onItsWay = false ∧ items = [] := by
  -- The first item decides: a bare end is the answer to a stop.
  cases ahead with
  | stopped => exact ⟨rfl, rfl, rfl, rfl⟩

/-- After an error comes what becomes of the stop. -/
theorem of_aborted {e : DaemonError}
    (ahead : Ahead exits duty sent onItsWay (.chunk (.aborted e) :: items)) :
    duty = .commands ∧ Late sent onItsWay items := by
  -- An error ends the stream by itself.
  cases ahead with
  | aborted late => exact ⟨rfl, late⟩

/-- Data that tells the exit comes before the end and what becomes of the stop, and any other data
before whatever is ahead after it. -/
theorem of_data {bytes : Bytes}
    (ahead : Ahead exits duty sent onItsWay (.chunk (.data bytes) :: items)) :
    exits bytes ∧ duty = .commands ∧
        (∃ rest, items = .chunk .ended :: rest ∧ Late sent onItsWay rest) ∨
      ¬exits bytes ∧ Ahead exits duty sent onItsWay items := by
  -- Data is ordinary or tells the exit, and each has its own constructor.
  cases ahead with
  | exited tells late => exact .inl ⟨tells, rfl, _, rfl, late⟩
  | data ordinary later => exact .inr ⟨ordinary, later⟩

/-- A stop that was not sent is not on its way. -/
theorem unsent (ahead : Ahead exits duty false onItsWay items) : onItsWay = false := by
  -- Data leaves it to what comes behind, and every other shape says what became of the stop.
  generalize same : false = sent at ahead
  induction ahead with
  | streaming => rfl
  | stopped => cases same
  | aborted late =>
    subst same
    cases late
    rfl
  | exited _ late =>
    subst same
    cases late
    rfl
  | data _ _ ih => exact ih same

/-- A stop that is sent now is on its way, whatever the daemon has sent before. -/
theorem send (ahead : Ahead exits duty false onItsWay items) :
    Ahead exits duty true true items := by
  -- The stop joins the last of what is ahead, whatever data comes before that.
  generalize same : false = sent at ahead
  induction ahead with
  | streaming => exact .streaming
  | stopped => cases same
  | aborted late =>
    subst same
    exact .aborted late.send
  | exited tells late =>
    subst same
    exact .exited tells late.send
  | data ordinary _ ih => exact .data ordinary (ih same)

/-- As long as the daemon streams, a stop that was sent is on its way, and what the daemon sends
next comes last. -/
theorem continue_streaming {next : List Item} {duty' : Duty} {sent' onItsWay' : Bool}
    (ahead : Ahead exits .streaming sent onItsWay items)
    (last : Ahead exits .streaming sent sent [] → Ahead exits duty' sent' onItsWay' next) :
    Ahead exits duty' sent' onItsWay' (items ++ next) := by
  -- While the daemon streams only data is ahead, and what it sends joins the end of it.
  generalize same : Duty.streaming = duty at ahead
  induction ahead with
  | streaming => exact last .streaming
  | stopped => cases same
  | aborted => cases same
  | exited => cases same
  | data ordinary _ ih => exact .data ordinary (ih last same)

/-- While the daemon streams, a stop is on its way if it was sent. -/
theorem streaming_sent (ahead : Ahead exits .streaming sent onItsWay items) : onItsWay = sent := by
  -- All other shapes are those of a stream that the daemon has ended.
  generalize same : Duty.streaming = duty at ahead
  induction ahead with
  | streaming => rfl
  | stopped => cases same
  | aborted => cases same
  | exited => cases same
  | data _ _ ih => exact ih same

/-- A stop on its way that the daemon gets after the end is answered behind everything else. -/
theorem answer (ahead : Ahead exits .commands sent true items) :
    Ahead exits .commands sent false (items ++ [.reply]) := by
  -- What becomes of the stop stands behind all data, so its answer comes last.
  generalize isCommands : Duty.commands = duty at ahead
  generalize isOnItsWay : true = onItsWay at ahead
  induction ahead with
  | streaming => cases isCommands
  | stopped => cases isOnItsWay
  | aborted late =>
    subst isOnItsWay
    exact .aborted late.answer
  | exited tells late =>
    subst isOnItsWay
    exact .exited tells late.answer
  | data ordinary _ ih =>
    subst isCommands
    exact .data ordinary (ih rfl isOnItsWay)

end Ahead

namespace Reader

variable {r : Reader} {later : Bytes}

/-- Where nothing is left to come, a chunk fails for an outage. -/
theorem readChunk_nothing (nothing : r.unread = []) :
    ∃ e after, readChunk r = (.error e, after) ∧ e.isOutage = true := by
  -- A chunk begins with a line, and a line takes bytes.
  rcases found : readLine r with ⟨e | line, after⟩
  · exact ⟨e, after, Step.bind_eq_error.mpr (.inl found), readLine_error found⟩
  · obtain ⟨raw, _, _, front, _⟩ := readLine_ok found
    simp [nothing] at front

/-- Where nothing is left to come, a response fails for an outage. -/
theorem readResponse_nothing (nothing : r.unread = []) :
    ∃ e after, readResponse r = (.error e, after) ∧ e.isOutage = true := by
  -- A response begins with a line as well.
  rcases found : readLine r with ⟨e | line, after⟩
  · exact ⟨e, after, Step.bind_eq_error.mpr (.inl (Step.bind_eq_error.mpr (.inl found))),
      readLine_error found⟩
  · obtain ⟨raw, _, _, front, _⟩ := readLine_ok found
    simp [nothing] at front

end Reader
end AmigaRemote
