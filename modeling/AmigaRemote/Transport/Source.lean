import AmigaRemote.Text.Basic
import AmigaRemote.Transport.Fault

/-! The receiving side of a transport: what each read will meet, in order. -/

namespace AmigaRemote

/-- The most bytes one read asks for. -/
def readSize : Nat := 4096

/-- What one read meets. -/
inductive Delivery where
  /-- Bytes. None at all is how the end of the stream shows itself. -/
  | bytes (piece : Bytes) (fits : piece.length ≤ readSize)
  /-- A failure. -/
  | fault (fault : Fault)

/-- What reads meet once all deliveries are taken. -/
inductive Ending where
  /-- The stream has ended. -/
  | closed
  /-- Nothing arrives until the wait times out. -/
  | silent
  /-- What comes next is not known yet. -/
  | unknown
  /-- A read has asked for what is not known yet. -/
  | starved
  deriving DecidableEq, Repr

/-- The receiving side of a transport. -/
structure Source where
  deliveries : List Delivery
  ending : Ending

/-- Why a wait for bytes ended without any. -/
inductive Stop where
  /-- The stream has ended. -/
  | closed
  /-- The transport failed. -/
  | fault (fault : Fault)
  deriving DecidableEq, Repr

namespace Delivery

/-- The bytes a delivery brings. -/
def content : Delivery → Bytes
  | bytes piece _ => piece
  | fault _ => []

/-- Bytes as a transport hands them out that gives at most `step` of them at a time. An empty piece
is one read without bytes. -/
def ofBytes (step : Nat) (all : Bytes) : List Delivery :=
  -- A step of zero would hand out nothing for ever, so it counts as one.
  let size := max 1 (min readSize step)
  have positive : 0 < size := Nat.lt_of_lt_of_le Nat.zero_lt_one (Nat.le_max_left _ _)
  have fits : size ≤ readSize := Nat.max_le.mpr ⟨by decide, Nat.min_le_left _ _⟩
  if all = [] then [.bytes [] (Nat.zero_le _)]
  else (chunksOf size positive all).attach.map fun piece =>
    .bytes piece.val (Nat.le_trans (length_le_of_mem_chunksOf piece.property) fits)

end Delivery

namespace Ending

/-- What a read past all deliveries meets. -/
def stop : Ending → Stop
  | closed => .closed
  | silent | unknown | starved => .fault (.ofKind .timedOut)

/-- What is known about the end after a read past all deliveries. -/
def afterRead : Ending → Ending
  | unknown => starved
  | ending => ending

end Ending

namespace Source

/-- The bytes that have not been taken yet. -/
def content (s : Source) : Bytes :=
  s.deliveries.flatMap Delivery.content

end Source

end AmigaRemote
