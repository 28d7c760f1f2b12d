import AmigaRemote.Cli.Plan
import AmigaRemote.Proofs.Client.Keeping
import AmigaRemote.Proofs.Stream.Outcomes
import AmigaRemote.Proofs.Wire.Ending

/-! Once it is known how the bytes of the daemon end, a run does not wait for more of them, and a
farewell ends it as it was about to end, whatever the daemon answers. -/

namespace AmigaRemote.Cli

open Reader (Complete complete_preserved)

variable {c : Connection}

/-- The operation that an action is, if it is no more than that. -/
def Action.operation? : Action → Option Operation
  | version => some .version
  | ping => some .ping
  | list path => some (.dir path)
  | stat path => some (.stat path)
  | cat path => some (.read path)
  | execAsync command => some (.execAsync command)
  | rename source target => some (.rename source target)
  | traceStop => some .traceStop
  | traceStatus => some .traceStatus
  | traceEnable names => some (.traceEnable names)
  | traceDisable names => some (.traceDisable names)
  | shutdown true => some .shutdown
  | raw line true => some (.chunkedCommand line)
  | raw line false => some (.command line)
  | get _ _ | put _ _ | exec _ | stream _ | shutdown false => none

/-- No action that is an operation is a stream. -/
theorem Action.operation?_single {action : Action} {op : Operation}
    (isOperation : action.operation? = some op) (request : StreamRequest) :
    op ≠ .openStream request := by
  rintro rfl
  -- What an action is as an operation can be read off its name, and no name gives a request for a
  -- stream.
  cases action with
  | shutdown confirmed | raw _ confirmed => cases confirmed <;> cases isOperation
  | _ => cases isOperation

namespace Acting

/-- What it is to carry out an action: an operation of which the result is shown, or more than
that. -/
inductive Performs (m : Manner) (files : LocalFiles) : Action → Acting Result → Prop where
  | operation {action : Action} {op : Operation}
    (report : ProtocolVersion → op.Result → List Emission)
    (isOperation : action.operation? = some op) :
    Performs m files action (do tell op.perform (report (← get).version))
  | download (remote : Text) (target : Option Path) : Performs m files (.get remote target)
      (download m files remote (localTarget remote target))
  | upload (source : Path) (remote : Text) : Performs m files (.put source remote)
      (upload m files source remote)
  | exec (command : Text) : Performs m files (.exec command) (exec m command)
  /-- A stream is no exchange. -/
  | stream (request : StreamRequest) : Performs m files (.stream request) (return ⟨[], 0⟩)
  /-- The daemon would be ended all the same. -/
  | unconfirmed : Performs m files (.shutdown false)
      (tell Connection.shutdown fun _ => m.done "shutdown")

/-- Every action is carried out in one of these ways. -/
theorem performs (m : Manner) (files : LocalFiles) (action : Action) :
    Performs m files action (perform m files action) := by
  -- Most actions are one operation whose result is shown, and differ only in what shows it.
  have operation {action : Action} (op : Operation) (report : op.Result → List Emission)
      (isOperation : action.operation? = some op) :
      Performs m files action (tell op.perform report) :=
    .operation (fun _ => report) isOperation
  cases action with
  | version =>
    exact @Performs.operation m files _ .version (fun protocol version =>
      m.version version protocol) rfl
  | ping => exact operation .ping (fun _ => m.done "ping") rfl
  | list path => exact operation (.dir path) m.listing rfl
  | stat path => exact operation (.stat path) m.object rfl
  | cat path => exact operation (.read path) _ rfl
  | get remote target => exact .download remote target
  | put source remote => exact .upload source remote
  | exec command => exact .exec command
  | execAsync command => exact operation (.execAsync command) m.started rfl
  | rename source target =>
    exact operation (.rename source target) (fun _ => m.done "rename") rfl
  | traceStop => exact operation .traceStop (fun _ => m.done "trace stop") rfl
  | traceStatus => exact operation .traceStatus m.tracer rfl
  | traceEnable names =>
    exact operation (.traceEnable names) (fun _ => m.done "trace enable") rfl
  | traceDisable names =>
    exact operation (.traceDisable names) (fun _ => m.done "trace disable") rfl
  | shutdown confirmed =>
    cases confirmed with
    | true => exact operation .shutdown (fun _ => m.done "shutdown") rfl
    | false => exact .unconfirmed
  | raw line chunked =>
    cases chunked with
    | true => exact operation (.chunkedCommand line) _ rfl
    | false => exact operation (.command line) m.reply rfl
  | stream request => exact .stream request

variable {property : Connection → Prop} {α : Type}

/-- To ask keeps what the client keeps. -/
theorem ask_keeps {client : Client α} (keeps : Step.Keeps property client) :
    Step.Keeps property (ask client) :=
  -- What goes wrong is only named anew. The connection is the client's.
  fun _ holds => keeps holds

/-- To ask for an operation keeps what operations keep. -/
theorem operation_keeps (preserved : Connection.Preserved property) {op : Operation}
    (single : ∀ request, op ≠ .openStream request) : Step.Keeps property (ask op.perform) :=
  -- A stream would leave more behind than its connection, so it stays apart.
  ask_keeps fun _ => preserved.perform single

/-- A download keeps what operations keep. -/
theorem download_keeps (preserved : Connection.Preserved property) (m : Manner)
    (files : LocalFiles) (remote : Text) (target : Path) :
    Step.Keeps property (download m files remote target) := by
  refine (@operation_keeps _ preserved (.read remote) nofun).bind fun content => ?_
  -- To write the file is nothing to the connection.
  split
  · exact (Step.Still.throw _).keeps
  · exact .pure _

/-- An upload keeps what operations keep. -/
theorem upload_keeps (preserved : Connection.Preserved property) (m : Manner) (files : LocalFiles)
    (source : Path) (remote : Text) : Step.Keeps property (upload m files source remote) := by
  unfold upload
  -- A file that cannot be read costs no operation.
  split
  · exact (Step.Still.throw _).keeps
  · exact (@operation_keeps _ preserved (.write remote _) nofun).bind fun _ => .pure _

/-- An action that is one exchange keeps what operations keep. -/
theorem perform_keeps (preserved : Connection.Preserved property) (m : Manner) (files : LocalFiles)
    (action : Action) : Step.Keeps property (perform m files action) := by
  -- What is shown of a result is nothing to the connection.
  have told (op : Operation) (single : ∀ request, op ≠ .openStream request)
      (report : op.Result → List Emission) : Step.Keeps property (tell op.perform report) :=
    (operation_keeps preserved single).bind fun _ => .pure _
  have performed := performs m files action
  generalize perform m files action = acting at performed ⊢
  cases performed with
  | operation report isOperation =>
    exact .bind .get fun _ => told _ (Action.operation?_single isOperation) _
  | download remote target => exact download_keeps preserved m files remote _
  | upload source remote => exact upload_keeps preserved m files source remote
  | exec command =>
    exact (@operation_keeps _ preserved (.exec command) nofun).bind fun _ => .pure _
  | stream request => exact .pure _
  | unconfirmed => exact told .shutdown nofun _

end Acting

namespace Run

/-- Goes on behind what was read, unless bytes were asked for that have not arrived: then the run
waits at a stage. -/
def onward (r : Run) (stage : Stage) (after : Reader) (sent : Bytes) (next : Progress) : Progress :=
  if isStarved after then (r.proceed stage []).await sent else next

/-- What a run comes to behind the next event of a stream. -/
def afterEvent (r : Run) (after : Session) : Except ClientError (Option StreamEvent) → Progress
  | .error e => r.fail (.client e) after.connection
  | .ok none => r.leave (verdictOf after.stream) after.connection
  | .ok (some event) => { r with shown := (r.manner.event event).reverse ++ r.shown }.follow after

/-- What a run comes to once it has asked for a stream. -/
def afterOpening (r : Run) (after : Connection) : Except ClientError Stream → Progress
  | .error e => { r with attention := .ends }.fail (.client e) after
  | .ok stream => { r with attention := .stops }.follow ⟨after, stream⟩

/-- What a run comes to behind the greeting. -/
def afterGreeting (r : Run) (settings : Settings) (action : Action) (sink : Sink) :
    Except ClientError Connection → Progress
  | .error e => r.finish ⟨1, some (.noConnection settings.address e)⟩ sink.taken
  | .ok c => r.act action c

variable {r : Run} {stage : Stage} {after : Reader} {sent : Bytes} {next : Progress}

/-- Without a question for bytes that have not arrived nobody waits. -/
theorem onward_of_fed (fed : after.source.ending ≠ .starved) :
    r.onward stage after sent next = next :=
  -- The run looks at one thing only, the ending of the source.
  if_neg (by simpa [isStarved] using fed)

/-- Nobody waits for bytes of which it is known that they do not come. -/
theorem onward_of_complete (complete : Complete after) : r.onward stage after sent next = next := by
  refine onward_of_fed ?_
  -- Of the two endings that are known neither is a wait.
  rcases complete with closed | silent
  · rw [closed]
    nofun
  · rw [silent]
    nofun

/-- A stream is followed from event to event. -/
theorem follow_eq {s after : Session} {result : Except ClientError (Option StreamEvent)}
    (found : s.nextEvent = (result, after)) :
    r.follow s = r.onward (.following s) after.connection.reader after.connection.sink.taken
      (r.afterEvent after result) := by
  -- The next event is a function of the session, so it is the one that was found.
  rw [follow]
  split
  rename_i same
  cases found.symm.trans same
  rcases result with e | _ | event
  all_goals rfl

/-- A stream is followed once it has been asked for. -/
theorem start_eq {request : StreamRequest} {c after : Connection}
    {result : Except ClientError Stream}
    (opened : Connection.openStream request c = (result, after)) :
    r.start request c
      = { r with attention := .waiting }.onward (.opening request c) after.reader after.sink.taken
          (r.afterOpening after result) := by
  -- Whether the daemon agrees or not, the run does what it was said to do behind the request.
  unfold start
  rw [opened]
  rcases result with e | stream
  all_goals rfl

/-- An action is carried out once the daemon has greeted. -/
theorem greet_eq {settings : Settings} {action : Action} {source : Source} {sink : Sink}
    {after : Reader} {result : Except ClientError Connection}
    (greets : Connection.greet settings source sink = (result, after)) :
    r.greet settings action source sink
      = r.onward (.greeting settings action source sink) after sink.taken
          (r.afterGreeting settings action sink result) := by
  -- As above, with the greeting in place of the request.
  unfold greet
  rw [greets]
  rcases result with e | c
  all_goals rfl

/-- All that a run will have shown once it has ended with a verdict. -/
def lastWords (r : Run) (verdict : Verdict) : List Emission :=
  r.shown.reverse ++ verdict.failure.toList.map r.manner.failure

/-- A farewell that is not waited for ends a run as it was about to end. -/
theorem leave_finishes (r : Run) (verdict : Verdict) (complete : Complete c.reader) :
    r.leave verdict c
      = .finished ⟨verdict.exit, r.lastWords verdict, c.release.sink.taken⟩ :=
  -- The farewell reads its answer and nothing more, and what is known of the ending outlasts that.
  onward_of_complete ((Connection.reader_preserved complete_preserved).release complete)

end Run
end AmigaRemote.Cli
