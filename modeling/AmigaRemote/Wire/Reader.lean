import AmigaRemote.Step
import AmigaRemote.Transport.Source
import AmigaRemote.Wire.Response

/-! Reading lines and exact numbers of bytes. Bytes past what was asked for stay buffered, so both
kinds of reads may follow one another, and a read that fails for lack of bytes may be repeated. -/

namespace AmigaRemote

/-- The receiving end of a connection. -/
structure Reader where
  /-- Bytes that have arrived but are not consumed. -/
  buffer : Bytes
  source : Source
  encoding : Encoding

/-- What a wait for bytes comes to: enough of them, with some more behind them, or a reason to
stop. -/
inductive Wait (ε : Type) where
  | complete (bytes rest : Bytes) (source : Source)
  | stopped (why : ε) (buffered : Bytes) (source : Source)

/-- Why a wait for the end of a line stopped. -/
inductive LineStop where
  /-- Too many bytes arrived without it. -/
  | overlong (size : Nat)
  /-- No more bytes came. -/
  | stop (why : Stop)

/-- Bytes up to the first line end and those after it. -/
def cutLine? (bytes : Bytes) : Option (Bytes × Bytes) :=
  match bytes.dropWhile (· ≠ Line.feed) with
  | _ :: rest => some (bytes.takeWhile (· ≠ Line.feed), rest)
  | [] => none

/-- A line without the carriage return that may end it. -/
def dropCarriageReturn (line : Bytes) : Bytes :=
  if line.getLast? = some Line.carriageReturn then line.dropLast else line

/-- Takes deliveries until a line end arrives. The bytes of the unfinished line are at hand, last
one first, and how many they are. -/
def awaitLine (ending : Ending) (seen : Bytes) (count : Nat) : List Delivery → Wait LineStop
  | [] => .stopped (.stop ending.stop) seen.reverse ⟨[], ending.afterRead⟩
  | .fault fault :: later =>
    -- An interrupted read is repeated.
    if fault.kind = .interrupted then awaitLine ending seen count later
    else .stopped (.stop (.fault fault)) seen.reverse ⟨later, ending⟩
  -- A read without bytes is the end of the stream, whatever comes later.
  | .bytes [] _ :: later => .stopped (.stop .closed) seen.reverse ⟨later, ending⟩
  | .bytes (b :: bs) _ :: later =>
    match cutLine? (b :: bs) with
    | some (line, rest) => .complete (seen.reverse ++ line) rest ⟨later, ending⟩
    | none =>
      let seen := (b :: bs).reverse ++ seen
      let count := count + (b :: bs).length
      -- The limit is looked at between reads.
      if Line.maxLength < count then .stopped (.overlong count) seen.reverse ⟨later, ending⟩
      else awaitLine ending seen count later

/-- Takes deliveries until so many more bytes have arrived. The bytes before them are at hand, last
one first. -/
def awaitExact (ending : Ending) (seen : Bytes) (missing : Nat) : List Delivery → Wait Stop
  | [] => .stopped ending.stop seen.reverse ⟨[], ending.afterRead⟩
  | .fault fault :: later =>
    if fault.kind = .interrupted then awaitExact ending seen missing later
    else .stopped (.fault fault) seen.reverse ⟨later, ending⟩
  | .bytes [] _ :: later => .stopped .closed seen.reverse ⟨later, ending⟩
  | .bytes (b :: bs) _ :: later =>
    if missing ≤ (b :: bs).length then
      .complete (seen.reverse ++ (b :: bs).take missing) ((b :: bs).drop missing) ⟨later, ending⟩
    else awaitExact ending ((b :: bs).reverse ++ seen) (missing - (b :: bs).length) later

/-- A computation that consumes bytes from a reader, also when it fails. -/
abbrev Reading := Step Reader WireError

namespace Reader

/-- A reader at the beginning of a stream. -/
def ofSource (source : Source) (encoding : Encoding) : Reader :=
  ⟨[], source, encoding⟩

/-- All bytes that are not consumed, arrived or not. -/
def unread (r : Reader) : Bytes :=
  r.buffer ++ r.source.content

/-- The reader with some bytes left over in front of a source. -/
def resume (r : Reader) (buffer : Bytes) (source : Source) : Reader :=
  { r with buffer, source }

/-- The bytes of the next line, without its end. -/
def readLineBytes : Reading Bytes := fun r =>
  -- Bytes at hand come first. The transport is asked only if they hold no line end.
  match cutLine? r.buffer with
  | some (line, rest) => (.ok (dropCarriageReturn line), r.resume rest r.source)
  | none =>
    let count := r.buffer.length
    if Line.maxLength < count then (.error (.lineTooLong count Line.maxLength), r)
    else match awaitLine r.source.ending r.buffer.reverse count r.source.deliveries with
      | .complete line rest source => (.ok (dropCarriageReturn line), r.resume rest source)
      | .stopped (.overlong size) buffered source =>
        (.error (.lineTooLong size Line.maxLength), r.resume buffered source)
      | .stopped (.stop (.fault fault)) buffered source =>
        (.error (.ofFault fault), r.resume buffered source)
      | .stopped (.stop .closed) buffered source =>
        -- The end of the stream discards what was left of a line.
        let failure :=
          if buffered = [] then .connectionClosed
          else .closedMidLine (r.encoding.decode buffered)
        (.error failure, r.resume [] source)

/-- The text of the next line, without its end. -/
def readLine : Reading Text := fun r =>
  match readLineBytes r with
  | (.ok line, r) => (.ok (r.encoding.decode line), r)
  | (.error e, r) => (.error e, r)

/-- The next bytes, as many as asked for. -/
def readExact (length : Nat) : Reading Bytes := fun r =>
  -- The size is refused before anything is waited for.
  if Chunk.maxSize < length then (.error (.chunkTooLarge length Chunk.maxSize), r)
  else
    let count := r.buffer.length
    if length ≤ count then (.ok (r.buffer.take length), r.resume (r.buffer.drop length) r.source)
    else match awaitExact r.source.ending r.buffer.reverse (length - count) r.source.deliveries with
      | .complete bytes rest source => (.ok bytes, r.resume rest source)
      | .stopped (.fault fault) buffered source =>
        (.error (.ofFault fault), r.resume buffered source)
      -- What arrived of the bytes is discarded with the end of the stream.
      | .stopped .closed buffered source =>
        (.error (.closedMidChunk length buffered.length), r.resume [] source)

end Reader

end AmigaRemote
