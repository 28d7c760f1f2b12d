import AmigaRemote.Cli.Run

/-! What a command line asks for, made ready to be run: the settings are known, and all that can
be refused without the daemon is refused. -/

namespace AmigaRemote.Cli

/-- The name of the program and its version. -/
def programVersion : Text := "amigactl 0.1.0".toList

/-- How the program is used. -/
def usage : List Text :=
  ["Usage: amigactl [SWITCHES] COMMAND [ARGUMENTS]",
    "",
    "Commands:",
    "  version                       show the version of the daemon",
    "  ping                          check that the daemon answers",
    "  ls PATH                       list a directory",
    "  stat PATH                     show what is known about a file or directory",
    "  cat PATH                      show a file",
    "  get REMOTE [LOCAL]            download a file",
    "  put LOCAL REMOTE              upload a file",
    "  exec [--async] COMMAND...     run a command, or start it with --async",
    "  mv FROM TO                    rename or move a file",
    "  tail PATH                     follow a file until interrupted",
    "  trace start [FILTER...]       follow the calls of all programs until interrupted",
    "  trace run [-f FILTER]... -- COMMAND...",
    "                                run a program and follow its calls",
    "  trace stop | status           end another client's trace, or show the tracer",
    "  trace enable | disable [NAME...]",
    "                                switch tracing on or off, perhaps for some functions only",
    "  shutdown --confirm            end the daemon",
    "  raw [--chunked] LINE...       send a line as it is",
    "",
    "Switches:",
    "  -H, --host HOST               where the daemon runs",
    "  -p, --port PORT               where the daemon listens (6800)",
    "  -t, --timeout SECONDS         how long to wait for a reply, 0 without limit (30)",
    "      --stream-timeout SECONDS  how long to wait for an event, 0 without limit (0)",
    "      --encoding ENCODING       iso-8859-1 or utf-8 (iso-8859-1)",
    "  -c, --config FILE             a file with settings",
    "      --log-level FILTER        accepted, but nothing is logged",
    "      --json                    show results as documents",
    "  -h, --help                    show this",
    "  -V, --version                 show the version of this program"].map String.toList

/-- A run that is ready to begin. -/
structure Plan where
  manner : Manner
  files : LocalFiles
  settings : Settings
  action : Action

/-- Whether colours are wanted. They can be forced, and otherwise are for terminals only. -/
def wantsColours (environment : Environment) (terminal : Bool) : Bool :=
  match ofName? "CLICOLOR_FORCE" with
  -- A zero forces nothing, and forbids nothing either.
  | some forced => forced ≠ ['0'] || unforced
  | none => unforced
where
  /-- The text of a variable. What is no text counts as not there. -/
  ofName? (name : String) : Option Text :=
    (environment.lookup name.toList).bind Word.text?
  /-- Whether colours are wanted though nobody insists. -/
  unforced : Bool :=
    (ofName? "NO_COLOR").isNone && ofName? "CLICOLOR" ≠ some ['0'] && terminal

/-- What is shown when arguments ask for no action. -/
def NoAction.outcome : NoAction → Outcome
  | misuse => ⟨2, usage.map mention, []⟩
  | help => ⟨0, usage.map say, []⟩
  | version => ⟨0, [say programVersion], []⟩

/-- The settings in a file, if one is named. -/
def readSettings (files : LocalFiles) : Option Path → Except Failure GivenSettings
  | none => .ok .empty
  | some path =>
    match files.read path with
    | .error fault => .error (.settings path (.unreadable fault))
    | .ok content => (GivenSettings.ofFile content).mapError (.settings path)

namespace Plan

/-- The plan for an invocation, or why there is none. -/
def ofInvocation (files : LocalFiles) (coloured : Bool) (i : Invocation) : Except Failure Plan := do
  -- A file that cannot be understood is complained of first.
  let settings := i.given.resolve (← readSettings files i.settingsFile)
  if i.action = .shutdown false then throw .unconfirmed
  return ⟨⟨i.json, coloured, settings.encoding⟩, files, settings, i.action⟩

/-- The plan for a command line, or what is shown in its place. -/
def prepare (words : List Word) (environment : Environment) (files : LocalFiles)
    (terminal : Bool) : Except Outcome Plan :=
  let coloured := wantsColours environment terminal
  match Invocation.parse words environment with
  | .error why => .error why.outcome
  | .ok i =>
    match ofInvocation files coloured i with
    | .ok plan => .ok plan
    | .error failure =>
      -- Nothing of the daemon's is shown, so its encoding does not matter.
      let manner : Manner := ⟨i.json, coloured, .latin1⟩
      .error ⟨1, [manner.failure failure], []⟩

/-- Begins the run over a transport, if one comes about. -/
def begin (p : Plan) (transport : Except Fault (Source × Sink)) : Progress :=
  match transport with
  | .error fault =>
    -- Nothing was sent, and there is no one to say farewell to.
    let address := p.settings.address
    let failure := p.manner.failure (.noConnection address (.unreachable address fault))
    .finished ⟨1, [failure], []⟩
  | .ok (source, sink) =>
    Run.advance
      ⟨p.manner, p.files, [], [], .none, .greeting p.settings p.action source sink⟩

end Plan

end AmigaRemote.Cli
