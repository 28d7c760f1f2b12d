import AmigaRemote.Proofs.Client.Exchange
import AmigaRemote.Proofs.Wire.Blocks
import AmigaRemote.Proofs.Wire.TransferGrammar

/-! A file of the daemon comes whole or not at all: what reading it returns is exactly what came as
a whole file, and everything else is a failure. -/

namespace AmigaRemote

/-- The size that an info announces, if it is a number. -/
def announcedSize? (info : Text) : Option Nat :=
  Decimal.nat? (UInt64.size - 1) info.trim

/-- The whole content of a file as the daemon sends it: a transfer that comes to its end, behind a
line of success. If that line announces a number, it is the size of the content. -/
inductive FileLayout (encoding : Encoding) (content : Bytes) (layout : Layout) : Prop where
  | whole {info : Text} {chunks : List Bytes}
    (transferred : TransferredLayout encoding info chunks none layout)
    (all : chunks.flatten = content)
    (announced : ∀ size, announcedSize? info = some size → size = content.length) :
    FileLayout encoding content layout

section Files

variable {encoding : Encoding} {content content' bytes : Bytes} {layout layout' : Layout}

/-- A transfer to its end is a response of success. -/
theorem TransferredLayout.chunked {info : Text} {chunks : List Bytes} {why : Option DaemonError}
    (transferred : TransferredLayout encoding info chunks why layout) :
    ChunkedLayout encoding (.ofTransfer info chunks why) layout := by
  -- A refused transfer is no transfer to its end, so that one case is left.
  cases transferred with
  | success head transfer => exact .transferred head transfer

/-- Where a whole file comes, it is what every response that comes holds. -/
theorem FileLayout.response {response : Response} (isFile : FileLayout encoding content layout)
    (front : layout.bytes <+: bytes) (isResponse : ChunkedLayout encoding response layout')
    (front' : layout'.bytes <+: bytes) :
    response.status = .ok ∧ response.data = content ∧
      ∀ size, announcedSize? response.info = some size → size = content.length := by
  -- Both layouts stand at the beginning of the same bytes, and what is asked for is unambiguous.
  obtain ⟨transferred, rfl, announced⟩ := isFile
  obtain ⟨rest, whole⟩ := front
  obtain ⟨rest', whole'⟩ := front'
  obtain ⟨rfl, _⟩ := isResponse.asks.unique transferred.asks (whole'.trans whole.symm)
  exact ⟨rfl, rfl, announced⟩

/-- One whole file comes at most. -/
theorem FileLayout.unique (isFile : FileLayout encoding content layout)
    (front : layout.bytes <+: bytes) (isFile' : FileLayout encoding content' layout')
    (front' : layout'.bytes <+: bytes) : content = content' := by
  -- The other file is a response that comes as well.
  obtain ⟨transferred, rfl, announced⟩ := isFile
  exact (isFile'.response front' transferred.chunked front).2.1

end Files

namespace Connection

variable {path : Text} {response : Response} {content : Bytes} {c after : Connection}

end Connection

end AmigaRemote
