import AmigaRemote.Proofs.Cli.Completion
import AmigaRemote.Proofs.Stream.Standing
import AmigaRemote.Proofs.Text.Utf8Form

/-! What it takes for an action to be achieved, and the exit status that tells it: a run comes to its
farewell with that status. -/

namespace AmigaRemote.Cli

open Reader (Complete complete_preserved)

/-- The local path of an action that copies a file. -/
def Action.localPath? : Action → Option Path
  | get remote target => some (localTarget remote target)
  | put source _ => some source
  | _ => none

/-- A local path, if there is one, is well-formed text. -/
def Nameable (path? : Option Path) : Prop :=
  ∀ path, path? = some path → Utf8.WellFormed path

/-- What can be said of the one local path that there is. -/
theorem nameable_some {path : Path} : Nameable (some path) ↔ Utf8.WellFormed path := by
  -- The path that is asked about is that path.
  simp [Nameable]

/-- What comes of a copy that was made: the copy is told of if its local path is text, and otherwise
only the breakdown is. -/
inductive CopyTold (m : Manner) (size : Nat) (path : Path) (remote shown : Text) : Result → Prop where
  | told (text : Utf8.WellFormed path) :
    CopyTold m size path remote shown ⟨m.copied size path.shown remote shown, 0⟩
  | brokeDown (other : ¬Utf8.WellFormed path) :
    CopyTold m size path remote shown ⟨[mention unnameable], breakdown⟩

/-- An action is achieved over a connection: what is asked of the daemon succeeds, and so does what
else it takes. -/
inductive Achieved (files : LocalFiles) (c : Connection) : Action → Prop where
  | operation {action : Action} {op : Operation} {result : op.Result} {after : Connection}
    (isOperation : action.operation? = some op) (done : op.perform c = (.ok result, after)) :
    Achieved files c action
  /-- The file has arrived and was written. -/
  | download {remote : Text} {target : Option Path} {content : Bytes} {after : Connection}
    (done : Connection.read remote c = (.ok content, after))
    (written : files.writeFault? (localTarget remote target) = none) :
    Achieved files c (.get remote target)
  /-- The file was read and has been taken. -/
  | upload {source : Path} {remote : Text} {content : Bytes} {size : UInt64} {after : Connection}
    (found : files.read source = .ok content)
    (done : Connection.write remote content c = (.ok size, after)) :
    Achieved files c (.put source remote)
  /-- The program has ended without complaint. -/
  | program {command : Text} {output : ExecOutput} {after : Connection}
    (done : Connection.exec command c = (.ok output, after)) (content : output.rc = 0) :
    Achieved files c (.exec command)
  /-- The stream came to its end. -/
  | stream {request : StreamRequest} {stream : Stream} {after : Connection}
    (opened : Connection.openStream request c = (.ok stream, after))
    (stopped : (Session.mk after stream).discard.2.stream.state = .stopped) :
    Achieved files c (.stream request)

/-- The exit status that tells what has become of an action. -/
inductive Tells (files : LocalFiles) (c : Connection) (action : Action) : UInt8 → Prop where
  | achieved (done : Achieved files c action) (nameable : Nameable action.localPath?) :
    Tells files c action 0
  /-- All is done, but the local path cannot be told of. -/
  | brokeDown (done : Achieved files c action) (unnameable : ¬Nameable action.localPath?) :
    Tells files c action breakdown
  /-- A program has ended with a complaint. -/
  | returned {command : Text} {output : ExecOutput} {after : Connection}
    (isExec : action = .exec command) (done : Connection.exec command c = (.ok output, after))
    (complains : output.rc ≠ 0) : Tells files c action (exitStatus output.rc)
  | failed (missed : ¬Achieved files c action)
    (unfinished : ∀ command output after, action = .exec command →
      Connection.exec command c ≠ (.ok output, after)) : Tells files c action 1

variable {files : LocalFiles} {c : Connection} {action : Action}

namespace Achieved

/-- An action that is no more than an operation is achieved by its success alone. -/
theorem performed {op : Operation} (isOperation : action.operation? = some op)
    (achieved : Achieved files c action) : ∃ result after, op.perform c = (.ok result, after) := by
  -- Only the first case speaks of operations, and an action is one operation at most.
  cases achieved with
  | operation isOperation' done =>
    cases isOperation.symm.trans isOperation'
    exact ⟨_, _, done⟩
  | _ => cases isOperation

/-- An upload that is achieved has found the file, and it was taken. -/
theorem uploaded {source : Path} {remote : Text} (achieved : Achieved files c (.put source remote)) :
    ∃ content size after, files.read source = .ok content ∧
      Connection.write remote content c = (.ok size, after) := by
  -- As above, it was achieved as an upload.
  cases achieved with
  | operation isOperation => cases isOperation
  | upload found done => exact ⟨_, _, _, found, done⟩

/-- A program that is achieved has ended without complaint. -/
theorem exited {command : Text} (achieved : Achieved files c (.exec command)) :
    ∃ output after, Connection.exec command c = (.ok output, after) ∧ output.rc = 0 := by
  -- A program that is waited for is no plain operation, because its return code has a say.
  cases achieved with
  | operation isOperation => cases isOperation
  | program done content => exact ⟨_, _, done, content⟩

/-- To end the daemon without an explicit word is not achieved. -/
theorem confirmed (achieved : Achieved files c action) : action ≠ .shutdown false := by
  rintro rfl
  -- Without the word the action is not even an operation, and the other cases have other actions.
  cases achieved with
  | operation isOperation => cases isOperation

end Achieved

/-- What misses its aim is told by one, unless it is a program. -/
theorem Tells.missed (other : ∀ command, action ≠ .exec command)
    (missed : ¬Achieved files c action) : Tells files c action 1 :=
  -- Only for a program is there a second way to fail.
  .failed missed fun command _ _ isExec => absurd isExec (other command)

/-- A copy that was achieved is told by what comes of it. -/
theorem CopyTold.tells {m : Manner} {size : Nat} {path : Path} {remote shown : Text}
    {result : Result} (told : CopyTold m size path remote shown result)
    (isLocal : action.localPath? = some path) (achieved : Achieved files c action) :
    Tells files c action result.exit := by
  have nameable : Nameable action.localPath? ↔ Utf8.WellFormed path :=
    isLocal ▸ nameable_some
  -- The status says whether the path is text, and nothing else.
  cases told with
  | told text => exact .achieved achieved (nameable.mpr text)
  | brokeDown other => exact .brokeDown achieved (mt nameable.mp other)

namespace Acting

end Acting

namespace Run

variable {r : Run} {start s after : Session}

end Run
end AmigaRemote.Cli
