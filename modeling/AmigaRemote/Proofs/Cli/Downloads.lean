import AmigaRemote.Proofs.Cli.Actions
import AmigaRemote.Proofs.Cli.Launch
import AmigaRemote.Proofs.Cli.Shown
import AmigaRemote.Proofs.Client.Retrieval

/-! A download is all or nothing: either the whole content of the remote file is delivered, or the
program fails and nothing is. Where the local path is no text, the program breaks down once all is
delivered. -/

namespace AmigaRemote.Cli

open Reader (Complete complete_preserved)

/-- A download brings exactly its content to where it goes. -/
def Delivers (content : Bytes) (shown : List Emission) : Option Path → Prop
  | none => Brings shown content
  | some target => filesWritten shown = [(target, content)]

/-- What is shown of a download that has brought its content, and with which status: it is a
success, unless its local path is no text. -/
inductive Concludes (content : Bytes) (shown : List Emission) (target? : Option Path) :
    UInt8 → Prop where
  | success (nameable : Nameable target?) (delivers : Delivers content shown target?) :
    Concludes content shown target? 0
  /-- The content is where it should be, and not a word about it on the standard output. -/
  | brokeDown (unnameable : ¬Nameable target?) (delivers : Delivers content shown target?)
    (silent : standardOutput shown = []) : Concludes content shown target? breakdown

namespace Concludes

variable {content : Bytes} {shown : List Emission} {target? : Option Path} {exit : UInt8}

end Concludes

variable {m : Manner} {r : Run} {files : LocalFiles} {i : Invocation} {c : Connection}
  {remote : Text} {target? : Option Path}

/-- A copy is told of without a file. -/
theorem copied_unwritten (m : Manner) (size : Nat) (name remote shown : Text) :
    filesWritten (m.copied size name remote shown) = [] :=
  -- Neither a document nor a line is a file.
  m.document_unwritten _ _

/-- A file that was written is told of as its path allows. -/
theorem CopyTold.concludes {size : Nat} {path : Path} {shown : Text} {result : Result}
    (told : CopyTold m size path remote shown result) (content : Bytes) :
    Concludes content (.file path content :: result.shown) (some path) result.exit := by
  -- What is told writes no other file, and a breakdown is told elsewhere than on the output.
  cases told with
  | told text =>
    exact .success (nameable_some.mpr text) (congrArg (_ :: ·) (copied_unwritten m _ _ _ _))
  | brokeDown other => exact .brokeDown (mt nameable_some.mp other) rfl rfl

variable {words : List Word} {environment : Environment} {terminal : Bool}
  {transport : Except Fault (Source × Sink)}

/-- A transport to a daemon that sends a file with one byte in it. -/
def sending : Source × Sink :=
  (⟨[.bytes [65, 77, 73, 71, 65, 67, 84, 76, 32, 49, 46, 48, 46, 48, 10, 79, 75, 32, 49, 10, 68, 65,
      84, 65] (by decide),
    .bytes [32, 49, 10, 65, 69, 78, 68, 10, 46, 10] (by decide)], .closed⟩, .accepting)

end AmigaRemote.Cli
