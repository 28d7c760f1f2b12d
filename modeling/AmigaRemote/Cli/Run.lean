import AmigaRemote.Cli.Directory
import AmigaRemote.Cli.Failure
import AmigaRemote.Cli.Invocation
import AmigaRemote.Cli.Report
import AmigaRemote.Client.Upload
import AmigaRemote.Stream.Run

/-! A run of the program, from the settings to the exit status. Where a run needs bytes that have
not arrived, it stops and can be resumed with them, or interrupted. -/

namespace AmigaRemote.Cli

/-- What an action leads to if it succeeds. -/
structure Result where
  shown : List Emission
  exit : UInt8
  deriving DecidableEq, Repr

/-- How a run that is about to say farewell will end. -/
structure Verdict where
  exit : UInt8
  failure : Option Failure
  deriving DecidableEq, Repr

/-- What an interrupt of the user does. -/
inductive Attention where
  /-- It ends the program. -/
  | none
  /-- It ends the program, which regrets. -/
  | waiting
  /-- It stops the stream. -/
  | stops
  /-- It ends the program, which says so. -/
  | ends
  deriving DecidableEq, Repr

/-- How far a run has come. -/
inductive Stage where
  /-- The daemon has not greeted. -/
  | greeting (settings : Settings) (action : Action) (source : Source) (sink : Sink)
  /-- The action has not been carried out. -/
  | acting (action : Action) (connection : Connection)
  /-- The stream has not begun. -/
  | opening (request : StreamRequest) (connection : Connection)
  /-- The stream is running. -/
  | following (session : Session)
  /-- All is done but the farewell. -/
  | leaving (verdict : Verdict) (connection : Connection)

/-- A run that waits for bytes to arrive. -/
structure Run where
  manner : Manner
  files : LocalFiles
  /-- What was shown, last first. -/
  shown : List Emission
  /-- What was sent, also for what is not done yet. -/
  sent : Bytes
  attention : Attention
  stage : Stage

/-- A run that is over. -/
structure Outcome where
  exit : UInt8
  /-- What was shown, first to last. -/
  shown : List Emission
  sent : Bytes
  deriving DecidableEq, Repr, Inhabited

/-- What a run has come to. -/
inductive Progress where
  | finished (outcome : Outcome)
  | waiting (run : Run)

/-- Carrying out an action over a connection. -/
abbrev Acting := Step Connection Failure

/-- The file name of a remote path: its last part, or all of it if that is empty. -/
def remoteFileName (path : Text) : Text :=
  let name := path.afterLast fun c => c = '/' || c = ':'
  if name = [] then path else name

/-- Where a file of the daemon is copied to: the target that is given, or its own name. -/
def localTarget (remote : Text) (target : Option Path) : Path :=
  target.getD (Utf8.encode (remoteFileName remote))

/-- The exit status of a program that breaks down. -/
def breakdown : UInt8 := 101

/-- What is said where a document should name a path that is no text. -/
def unnameable : Text := "path contains invalid UTF-8 characters".toList

/-- What comes of a copy that was made. There is a document about it whether it is shown or not,
and in it the local path is a text. With a path that is none the program breaks down, though the
copy has been made. -/
def Manner.copyResult (m : Manner) (size : Nat) (path : Path) (remote shown : Text) : Result :=
  match path.text? with
  | some name => ⟨m.copied size name remote shown, 0⟩
  | none => ⟨[mention unnameable], breakdown⟩

/-- The exit status for a return code: what it says as far as a status can say it. -/
def exitStatus (rc : Int32) : UInt8 :=
  -- A failure must not look like a success, so what is below one counts as one.
  if rc = 0 then 0 else UInt8.ofNat (max 1 (min 255 rc.toInt)).toNat

namespace Acting

/-- Asks the daemon. -/
def ask {α : Type} (client : Client α) : Acting α := fun c =>
  let (result, c) := client c
  (result.mapError .client, c)

/-- A success that is shown so. -/
def tell {α : Type} (client : Client α) (report : α → List Emission) : Acting Result := do
  return ⟨report (← ask client), 0⟩

/-- Copies a file of the daemon. Nothing is written unless all of it has arrived. -/
def download (m : Manner) (files : LocalFiles) (remote : Text) (target : Path) :
    Acting Result := do
  -- The daemon is asked first, so nothing is lost if it refuses.
  let content ← ask (Connection.read remote)
  match files.writeFault? target with
  | some fault => throw (.unwritable target fault)
  | none =>
    let result := m.copyResult content.length target remote target.shown
    return { result with shown := .file target content :: result.shown }

/-- Copies a file to the daemon. -/
def upload (m : Manner) (files : LocalFiles) (source : Path) (remote : Text) :
    Acting Result := do
  -- A file that cannot be read costs no command.
  match files.read source with
  | .error fault => throw (.unreadable source fault)
  | .ok content =>
    let taken ← ask (Connection.write remote content)
    return m.copyResult taken.toNat source remote remote

/-- Runs a program to its end, which gives the exit status. -/
def exec (m : Manner) (command : Text) : Acting Result := do
  let result ← ask (Connection.exec command)
  return ⟨m.data result.output [("rc", .int result.rc.toInt)], exitStatus result.rc⟩

/-- Carries out an action that is one exchange. A stream is not. -/
def perform (m : Manner) (files : LocalFiles) : Action → Acting Result
  | .version => do
    let protocol := (← get).version
    tell Connection.askVersion fun version => m.version version protocol
  | .ping => tell Connection.ping fun _ => m.done "ping"
  | .list path => tell (Connection.dir path) m.listing
  | .stat path => tell (Connection.stat path) m.object
  | .cat path =>
    tell (Connection.read path) fun content =>
      m.data content [("path", .string path), ("size", .nat content.length)]
  | .get remote target => download m files remote (localTarget remote target)
  | .put source remote => upload m files source remote
  | .exec command => exec m command
  | .execAsync command => tell (Connection.execAsync command) m.started
  | .rename source target => tell (Connection.rename source target) fun _ => m.done "rename"
  | .traceStop => tell Connection.traceStop fun _ => m.done "trace stop"
  | .traceStatus => tell Connection.traceStatus m.tracer
  | .traceEnable names => tell (Connection.traceEnable names) fun _ => m.done "trace enable"
  | .traceDisable names => tell (Connection.traceDisable names) fun _ => m.done "trace disable"
  | .shutdown _ => tell Connection.shutdown fun _ => m.done "shutdown"
  | .raw line true =>
    tell (Connection.chunkedCommand line) fun r => m.data r.data [("info", .string r.info)]
  | .raw line false => tell (Connection.command line) m.reply
  | .stream _ => return ⟨[], 0⟩

end Acting

/-- What is said of a failure. -/
def Manner.failure (m : Manner) (f : Failure) : Emission :=
  mention (m.paint .red "Error:".toList ++ ' ' :: f.message)

/-- Whether a connection has asked for bytes that have not arrived. -/
def isStarved (reader : Reader) : Bool :=
  reader.source.ending = .starved

namespace Run

/-- The run at another stage, with more to be shown. -/
def proceed (r : Run) (stage : Stage) (shown : List Emission) : Run :=
  { r with stage, shown := shown.reverse ++ r.shown }

/-- The run that waits for bytes, with all that was sent. -/
def await (r : Run) (sent : Bytes) : Progress :=
  .waiting { r with sent }

/-- The end of a run. -/
def finish (r : Run) (verdict : Verdict) (sent : Bytes) : Progress :=
  -- A failure is told last, when the daemon has been left.
  let last := verdict.failure.toList.map r.manner.failure
  .finished ⟨verdict.exit, r.shown.reverse ++ last, sent⟩

/-- Says farewell. What the daemon answers changes nothing. -/
def leave (r : Run) (verdict : Verdict) (c : Connection) : Progress :=
  let left := c.release
  -- The farewell is begun anew once more has arrived, from where the connection was.
  if isStarved left.reader then (r.proceed (.leaving verdict c) []).await left.sink.taken
  else r.finish verdict left.sink.taken

/-- Says farewell after a failure. -/
def fail (r : Run) (failure : Failure) (c : Connection) : Progress :=
  r.leave ⟨1, some failure⟩ c

/-- How a stream that is over has ended. -/
def verdictOf (stream : Stream) : Verdict :=
  match stream.state, stream.failure with
  | .failed, some e => ⟨1, some (.aborted e)⟩
  | _, _ => ⟨0, none⟩

/-- Shows the events of a stream up to its end. -/
def follow (r : Run) (s : Session) : Progress :=
  match found : s.nextEvent with
  | (result, after) =>
    if isStarved after.connection.reader then
      (r.proceed (.following s) []).await after.connection.sink.taken
    else match result with
      | .error e => r.fail (.client e) after.connection
      | .ok none => r.leave (verdictOf after.stream) after.connection
      | .ok (some event) =>
        have := Session.nextEvent_shortens found
        follow { r with shown := (r.manner.event event).reverse ++ r.shown } after
termination_by s.unread.length

/-- Asks for a stream. -/
def start (r : Run) (request : StreamRequest) (c : Connection) : Progress :=
  -- Until the daemon answers there is no stream to stop.
  let r := { r with attention := .waiting }
  let (opened, after) := Connection.openStream request c
  if isStarved after.reader then (r.proceed (.opening request c) []).await after.sink.taken
  else match opened with
    | .error e => { r with attention := .ends }.fail (.client e) after
    | .ok stream => { r with attention := .stops }.follow ⟨after, stream⟩

/-- Carries out the action. -/
def act (r : Run) (action : Action) (c : Connection) : Progress :=
  match action with
  | .stream request => r.start request c
  | action =>
    let (result, after) := Acting.perform r.manner r.files action c
    if isStarved after.reader then (r.proceed (.acting action c) []).await after.sink.taken
    else match result with
      | .error failure => r.fail failure after
      | .ok result =>
        -- Results are shown before the farewell, so they are not lost if that fails.
        { r with shown := result.shown.reverse ++ r.shown }.leave ⟨result.exit, none⟩ after

/-- Waits for the daemon to greet. -/
def greet (r : Run) (settings : Settings) (action : Action) (source : Source) (sink : Sink) :
    Progress :=
  match Connection.greet settings source sink with
  | (result, reader) =>
    if isStarved reader then
      (r.proceed (.greeting settings action source sink) []).await sink.taken
    else match result with
      | .error e => r.finish ⟨1, some (.noConnection settings.address e)⟩ sink.taken
      | .ok c => r.act action c

/-- Goes on as far as possible. -/
def advance (r : Run) : Progress :=
  match r.stage with
  | .greeting settings action source sink => r.greet settings action source sink
  | .acting action c => r.act action c
  | .opening request c => r.start request c
  | .following s => r.follow s
  | .leaving verdict c => r.leave verdict c

/-- A source that has got more bytes. -/
def extend (arrived : List Delivery) (ending : Ending) (source : Source) : Source :=
  ⟨source.deliveries ++ arrived, ending⟩

/-- The stage once more bytes have arrived. -/
def Stage.supply (arrived : List Delivery) (ending : Ending) : Stage → Stage
  | .greeting settings action source sink =>
    .greeting settings action (extend arrived ending source) sink
  | .acting action c => .acting action (refill c)
  | .opening request c => .opening request (refill c)
  | .following s => .following { s with connection := refill s.connection }
  | .leaving verdict c => .leaving verdict (refill c)
where
  /-- The connection once more bytes have arrived. -/
  refill (c : Connection) : Connection :=
    { c with reader := { c.reader with source := extend arrived ending c.reader.source } }

/-- Goes on with bytes that have arrived, or with the news that none will. -/
def resume (r : Run) (arrived : List Delivery) (ending : Ending) : Progress :=
  advance { r with stage := Stage.supply arrived ending r.stage }

/-- How many seconds a run waits for bytes, if there is a limit. -/
def waitLimit? (r : Run) : Option UInt64 :=
  match r.stage with
  | .greeting settings _ _ _ => settings.replyLimit?
  | .acting _ c | .opening _ c | .leaving _ c => c.waitLimit?
  | .following s => s.connection.waitLimit?

/-- Ends the run at once, without a farewell. -/
def abandon (r : Run) (exit : UInt8) (last : List Emission) : Progress :=
  .finished ⟨exit, r.shown.reverse ++ last, r.sent⟩

/-- Stops the stream, if there is one that runs. Whether the stop can be sent shows later. -/
def stopStream (r : Run) : Run :=
  match r.stage with
  | .following s =>
    -- A stop that cannot be sent shows when the stream is read further.
    let (_, stopped) := s.stopElsewhere
    { r with stage := .following stopped, sent := stopped.connection.sink.taken }
  | _ => r

/-- What an interrupt of the user does to a run that waits. -/
def interrupt (r : Run) : Progress :=
  match r.attention with
  | .none => r.abandon 130 []
  | .waiting => r.abandon 1 [r.manner.failure .impatience]
  | .ends => r.abandon 130 [mention (r.manner.paint .red "Interrupted.".toList)]
  | .stops =>
    let said := mention (r.manner.paint .yellow "Stopping...".toList)
    let shown := if r.manner.json then r.shown else said :: r.shown
    .waiting { r.stopStream with attention := .ends, shown }

end Run

end AmigaRemote.Cli
