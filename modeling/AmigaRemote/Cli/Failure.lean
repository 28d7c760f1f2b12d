import AmigaRemote.Cli.Directory
import AmigaRemote.Client.Error
import AmigaRemote.Settings.File

/-! Why a run of the program fails, and what it says then. -/

namespace AmigaRemote.Cli

/-- Why a run fails. -/
inductive Failure where
  /-- The file with settings gives none. -/
  | settings (path : Path) (why : FileFault)
  /-- The daemon may not be ended without an explicit word. -/
  | unconfirmed
  /-- No connection comes about. -/
  | noConnection (address : Text) (e : ClientError)
  /-- The daemon is asked in vain. -/
  | client (e : ClientError)
  /-- A local file cannot be read. -/
  | unreadable (path : Path) (fault : Fault)
  /-- A local file cannot be written. -/
  | unwritable (path : Path) (fault : Fault)
  /-- The daemon broke the stream off. -/
  | aborted (e : DaemonError)
  /-- The user lost patience before the stream began. -/
  | impatience
  deriving DecidableEq, Repr

namespace Failure

/-- The words for an error of the client, followed by those for the fault behind it. -/
def causes (e : ClientError) : Text :=
  match e with
  -- These messages name their cause already, and the list of causes names it once more.
  | .unreachable _ fault | .wire (.transport fault) => e.message ++ ": ".toList ++ fault.message
  | _ => e.message

/-- The words for a failure. -/
def message : Failure → Text
  | settings path (.unreadable fault) =>
    "Failed to read config file ".toList ++ path.shown ++ ": ".toList ++ fault.message
  | settings path .invalid => "Invalid config file ".toList ++ path.shown
  | unconfirmed => "Refusing to stop the daemon without --confirm".toList
  | noConnection address e =>
    "Cannot talk to amigactld at ".toList ++ address ++ ": ".toList ++ causes e
  | client e => causes e
  | unreadable path fault =>
    "Failed to read ".toList ++ path.shown ++ ": ".toList ++ fault.message
  | unwritable path fault =>
    "Failed to write ".toList ++ path.shown ++ ": ".toList ++ fault.message
  | aborted e => "Stream aborted by server: ".toList ++ e.message
  | impatience => "Interrupted before the stream started".toList

end Failure

end AmigaRemote.Cli
