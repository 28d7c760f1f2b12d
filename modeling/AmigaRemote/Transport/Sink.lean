import AmigaRemote.Text.Basic
import AmigaRemote.Transport.Fault

/-! The sending side of a transport: what each write will do, in order. -/

namespace AmigaRemote

/-- What one write does with the bytes it is offered. -/
inductive Acceptance where
  /-- Takes the first bytes, as many as there are up to a limit. -/
  | upTo (limit : Nat)
  /-- Takes none and fails. -/
  | fault (fault : Fault)
  deriving DecidableEq, Repr

/-- The sending side of a transport. -/
structure Sink where
  /-- What the next writes do. -/
  script : List Acceptance
  /-- What every later write does. -/
  after : Acceptance
  /-- How pushing out what was taken fails, if it does. -/
  flushFault : Option Fault
  /-- All bytes taken so far. -/
  taken : Bytes

namespace Sink

/-- A sink that takes everything. -/
def accepting : Sink :=
  ⟨[], .upTo UInt64.size, none, []⟩

/-- A sink whose writes take at most `most` bytes each. Once `total` bytes are taken, if that is
given, writes fail, or take nothing if no failure is given. -/
def limited (most total : Option Nat) (failure flushFault : Option Fault) : Sink :=
  let most := most.getD UInt64.size
  -- Once the total is reached, what every write does is refuse.
  let refusal := (failure.map Acceptance.fault).getD (.upTo 0)
  match total with
  | none => ⟨[], .upTo most, flushFault, []⟩
  | some total =>
    -- Full writes come first, then the one that the total cuts short.
    let last := if total % most = 0 then [] else [.upTo (total % most)]
    ⟨List.replicate (total / most) (.upTo most) ++ last, refusal, flushFault, []⟩

/-- The sink from the moment on at which every write fails. -/
def refusing (s : Sink) (fault : Fault) : Sink :=
  { s with script := [], after := .fault fault }

/-- The sink after it took some bytes. -/
def took (s : Sink) (bytes : Bytes) : Sink :=
  { s with taken := s.taken ++ bytes }

/-- Offers bytes to writes that all do the same. -/
def writeSteadily (s : Sink) (bytes : Bytes) : Except Fault Unit × Sink :=
  match s.after with
  | .fault fault => if bytes = [] then (.ok (), s) else (.error fault, s)
  | .upTo limit =>
    -- A write that takes no byte would go on so for ever.
    if bytes ≠ [] ∧ limit = 0 then (.error .unfinishedWrite, s) else (.ok (), s.took bytes)

/-- Offers bytes until all are taken or a write fails. An interrupted write is repeated. -/
def writeScripted (s : Sink) (bytes : Bytes) : List Acceptance → Except Fault Unit × Sink
  | [] => writeSteadily { s with script := [] } bytes
  | acceptance :: later =>
    -- Nothing left to write, so no further write happens.
    if bytes = [] then (.ok (), { s with script := acceptance :: later })
    else match acceptance with
      | .upTo 0 => (.error .unfinishedWrite, { s with script := later })
      | .upTo (limit + 1) =>
        writeScripted (s.took (bytes.take (limit + 1))) (bytes.drop (limit + 1)) later
      | .fault fault =>
        -- Nothing was taken, so the same bytes are offered again.
        if fault.kind = .interrupted then writeScripted s bytes later
        else (.error fault, { s with script := later })

/-- Writes all bytes, then pushes them out. -/
def send (s : Sink) (bytes : Bytes) : Except Fault Unit × Sink :=
  -- What was taken before a failure stays taken, and is not pushed out.
  match s.writeScripted bytes s.script with
  | (.error fault, s) => (.error fault, s)
  | (.ok (), s) =>
    match s.flushFault with
    | some fault => (.error fault, s)
    | none => (.ok (), s)

end Sink

end AmigaRemote
