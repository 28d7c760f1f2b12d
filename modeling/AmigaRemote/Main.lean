import AmigaRemote.Cli.Plan
import Std.Async.DNS
import Std.Async.Select
import Std.Async.Signal
import Std.Async.TCP
import Std.Async.Timer

/-! The program: a run whose bytes arrive over the network and whose emissions are carried out. -/

namespace AmigaRemote.Cli

open Std.Async
open Std.Net

/-- What a waiting run learns from the world. -/
inductive News where
  | arrived (bytes : Bytes)
  | ended
  | fault (fault : Fault)
  | silence
  | interrupt

/-- A failure as a run knows it. -/
def faultOf : IO.Error → Fault
  | .noFileOrDirectory .. => .system .notFound
  | .permissionDenied .. => .system .permissionDenied
  | .inappropriateType .. => .system .isDirectory
  | .timeExpired .. => .ofKind .timedOut
  | .interrupted .. => .system .interrupted
  | .resourceVanished .. => .system .brokenPipe
  | .noSuchThing .. => .system .connectionRefused
  | _ => .system .other

/-- The content of a file. -/
def readFile (path : Path) : IO (Except Fault Bytes) := do
  try
    return .ok (← IO.FS.readBinFile (String.ofList path.shown)).toList
  catch e => return .error (faultOf e)

/-- The files that a command line names, read beforehand. -/
def readFiles (words : List Word) (environment : Environment) : IO LocalFiles := do
  let paths := match Invocation.parse words environment with
    | .error _ => []
    | .ok i =>
      let source := match i.action with
        | .put source _ => [source]
        | _ => []
      i.settingsFile.toList ++ source
  let contents ← paths.mapM fun path => return (path, ← readFile path)
  return {
    read := fun path => (contents.lookup path).getD (.error (.system .notFound))
    writeFault? := fun _ => none }

/-- The variables that matter. -/
def readEnvironment : IO Environment := do
  let named := commonSwitches.filterMap (·.2)
  let others := ["CLICOLOR", "CLICOLOR_FORCE", "NO_COLOR"].map String.toList
  let found ← (named ++ others).mapM fun name => do
    let value? ← IO.getEnv (String.ofList name)
    return value?.map fun value => (name, Word.ofText value.toList)
  return found.filterMap id

/-- A connection to an address. -/
def reachAddress (port : UInt16) (address : IPAddr) : Async (Option TCP.Socket.Client) := do
  let client ← TCP.Socket.Client.mk
  client.connect (match address with
    | .v4 a => .v4 ⟨a, port⟩
    | .v6 a => .v6 ⟨a, port⟩)
  client.noDelay
  return some client

/-- A connection to an address within the limit of a wait, if there is one. -/
def reachInTime (settings : Settings) (address : IPAddr) : IO (Except Fault TCP.Socket.Client) := do
  let attempt := reachAddress settings.port address
  let limited : Async (Option TCP.Socket.Client) := match settings.replyLimit? with
    | none => attempt
    | some seconds => Async.race attempt do
        sleep ⟨1000 * (seconds.toNat : Int)⟩
        return none
  try
    match ← limited.block with
    | some client => return .ok client
    | none => return .error (.ofKind .timedOut)
  catch e => return .error (faultOf e)

/-- A connection to the first address of the daemon that can be reached. -/
def reach (settings : Settings) : IO (Except Fault TCP.Socket.Client) := do
  try
    let service := toString settings.port.toNat
    let addresses ← (DNS.getAddrInfo (String.ofList settings.host) service).block
    let mut result : Except Fault TCP.Socket.Client := .error (.system .connectionRefused)
    for address in addresses do
      match result with
      | .ok _ => pure ()
      | .error _ => result ← reachInTime settings address
    return result
  catch e => return .error (faultOf e)

/-- What a run listens to: the daemon's next bytes and the next interrupt. -/
structure Ears where
  client : TCP.Socket.Client
  signal : Signal.Waiter
  arrival : Task News
  interruption : Task News

/-- The daemon's next bytes. -/
def nextArrival (client : TCP.Socket.Client) : IO (Task News) := do
  let received ← (client.recv? 65536).asTask
  return Task.map (hear ·) received
where
  hear : Except IO.Error (Option ByteArray) → News
    | .ok (some bytes) => .arrived bytes.toList
    | .ok none => .ended
    | .error e => .fault (faultOf e)

/-- The next interrupt. -/
def nextInterruption (signal : Signal.Waiter) : IO (Task News) := do
  let received ← signal.wait
  return Task.map (fun _ => .interrupt) received

/-- Listens to a daemon and to the keyboard. -/
def Ears.ofClient (client : TCP.Socket.Client) : IO Ears := do
  let signal ← Signal.Waiter.mk .sigint true
  return ⟨client, signal, ← nextArrival client, ← nextInterruption signal⟩

/-- Waits for something to happen, at most for the given number of seconds. -/
def Ears.await (e : Ears) (limit : Option UInt64) : IO (News × Ears) := do
  let news ← match limit with
    | none => IO.waitAny [e.interruption, e.arrival] (Nat.zero_lt_succ _)
    | some seconds =>
      let sleep ← (Sleep.mk ⟨1000 * (seconds.toNat : Int)⟩).block
      let passed ← sleep.wait.asTask
      let silence := Task.map (fun _ => .silence) passed
      let news ← IO.waitAny [e.interruption, e.arrival, silence] (Nat.zero_lt_succ _)
      sleep.stop
      pure news
  -- Only what has been heard is listened for anew.
  match news with
  | .interrupt => return (news, { e with interruption := ← nextInterruption e.signal })
  | .arrived _ => return (news, { e with arrival := ← nextArrival e.client })
  | _ => return (news, e)

/-- Carries out an emission. -/
def carryOut : Emission → IO Unit
  | .output bytes => do
    let stdout ← IO.getStdout
    stdout.write (ByteArray.mk bytes.toArray)
    stdout.flush
  | .remark text => do
    let stderr ← IO.getStderr
    stderr.putStr (String.ofList text)
  | .file path content =>
    IO.FS.writeBinFile (String.ofList path.shown) (ByteArray.mk content.toArray)

/-- What a run has shown and sent so far. -/
def Progress.traces : Progress → List Emission × Bytes
  | .finished o => (o.shown, o.sent)
  | .waiting r => (r.shown.reverse, r.sent)

/-- Takes a run further and carries out what is new. Where a file cannot be written, the run is
taken further once more with that known. -/
def advance (r : Run) (step : Run → Progress) : IO Progress := do
  let carry (p : Progress) : IO Unit :=
    (p.traces.1.drop r.shown.length).forM carryOut
  let p := step r
  try
    carry p
    return p
  catch e =>
    let fault := faultOf e
    let p := step { r with files := { r.files with writeFault? := fun _ => some fault } }
    carry p
    return p

/-- Takes a run to its end. -/
partial def drive (ears : Ears) (sent : Nat) : Progress → IO UInt8
  | .finished o => do
    send o.sent
    return o.exit
  | .waiting r => do
    send r.sent
    let (news, ears) ← ears.await r.waitLimit?
    let next ← advance r (answer news)
    drive ears (max sent r.sent.length) next
where
  /-- Sends what is new. A failure shows when the daemon hangs up. -/
  send (all : Bytes) : IO Unit := do
    let rest := all.drop sent
    if rest ≠ [] then
      try (ears.client.send (ByteArray.mk rest.toArray)).block catch _ => pure ()
  /-- What news mean to a waiting run. -/
  answer (news : News) (r : Run) : Progress :=
    match news with
    | .arrived bytes => r.resume (Delivery.ofBytes readSize bytes) .unknown
    | .ended => r.resume [] .closed
    | .fault fault => r.resume [.fault fault] .closed
    | .silence => r.resume [] .silent
    | .interrupt => r.interrupt

/-- Runs the program and returns its exit status. -/
def runProgram (words : List Word) : IO UInt8 := do
  let environment ← readEnvironment
  let files ← readFiles words environment
  let terminal ← (← IO.getStdout).isTty
  match Plan.prepare words environment files terminal with
  | .error outcome =>
    outcome.shown.forM carryOut
    return outcome.exit
  | .ok plan =>
    match ← reach plan.settings with
    | .error fault =>
      let progress := plan.begin (.error fault)
      progress.traces.1.forM carryOut
      return 1
    | .ok client =>
      let ears ← Ears.ofClient client
      let exit ← drive ears 0 (plan.begin (.ok (⟨[], .unknown⟩, .accepting)))
      ears.signal.stop
      return exit

end AmigaRemote.Cli

/-- The program. -/
def main (arguments : List String) : IO UInt32 := do
  let words := arguments.map fun argument => AmigaRemote.Cli.Word.ofText argument.toList
  return (← AmigaRemote.Cli.runProgram words).toUInt32
