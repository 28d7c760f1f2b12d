import AmigaRemote.Cli.Directory
import AmigaRemote.Cli.Switch
import AmigaRemote.Settings.File
import AmigaRemote.Stream.Request

/-! What a command line asks for. Some switches may stand before and behind every subcommand; of
several such, the one furthest behind counts, and what is not given may be in the environment. -/

namespace AmigaRemote.Cli

/-- What is to be done. -/
inductive Action where
  | version
  | ping
  | list (path : Text)
  | stat (path : Text)
  /-- Shows a file of the daemon. -/
  | cat (path : Text)
  /-- Copies a file of the daemon. -/
  | get (remote : Text) (target : Option Path)
  /-- Copies a file to the daemon. -/
  | put (source : Path) (remote : Text)
  | exec (command : Text)
  | execAsync (command : Text)
  | rename (source target : Text)
  | traceStop
  | traceStatus
  | traceEnable (names : List Text)
  | traceDisable (names : List Text)
  | shutdown (confirmed : Bool)
  | raw (line : Text) (chunked : Bool)
  | stream (request : StreamRequest)
  deriving DecidableEq, Repr

/-- What a command line asks for, and how. -/
structure Invocation where
  given : GivenSettings
  /-- The file with further settings. -/
  settingsFile : Option Path
  json : Bool
  action : Action
  deriving DecidableEq, Repr

/-- The variables of the environment. -/
abbrev Environment := List (Text × Word)

/-- Accepts the words that are texts with a property. -/
def textThat (holds : Text → Bool) (w : Word) : Bool :=
  w.text?.any holds

/-- The switches that all commands have, and the variables that may stand in for them. -/
def commonSwitches : List (Switch × Option Text) :=
  let number (greatest : Nat) (t : Text) : Bool :=
    (Decimal.int? 0 greatest t).isSome
  [(⟨"host".toList, some 'H', .value Kind.text.admits⟩, some "AMIGACTL_HOST".toList),
    (⟨"port".toList, some 'p', .value (textThat (number (UInt16.size - 1)))⟩,
      some "AMIGACTL_PORT".toList),
    (⟨"timeout".toList, some 't', .value (textThat fun t => (Decimal.uint64? t).isSome)⟩,
      some "AMIGACTL_TIMEOUT".toList),
    (⟨"stream-timeout".toList, none, .value (textThat fun t => (Decimal.uint64? t).isSome)⟩,
      some "AMIGACTL_STREAM_TIMEOUT".toList),
    (⟨"encoding".toList, none, .value (textThat fun t => (Encoding.parse t).isOk)⟩,
      some "AMIGACTL_ENCODING".toList),
    (⟨"config".toList, some 'c', .value Kind.path.admits⟩, some "AMIGACTL_CONFIG".toList),
    (⟨"log-level".toList, none, .value Kind.text.admits⟩, some "AMIGACTL_LOG".toList),
    (⟨"json".toList, none, .flag⟩, none),
    (⟨"help".toList, some 'h', .ends .help⟩, none)]

/-- The commands that have no subcommands. -/
inductive Verb where
  | version
  | ping
  | ls
  | stat
  | cat
  | get
  | put
  | exec
  | mv
  | tail
  | shutdown
  | raw
  deriving DecidableEq, Repr

/-- What can be done about tracing. -/
inductive TraceVerb where
  | start
  | run
  | stop
  | status
  | enable
  | disable
  deriving DecidableEq, Repr

/-- The commands by their names. -/
def Verb.names : List (Text × Verb) :=
  [("version".toList, version), ("ping".toList, ping), ("ls".toList, ls), ("stat".toList, stat),
    ("cat".toList, cat), ("get".toList, get), ("put".toList, put), ("exec".toList, exec),
    ("mv".toList, mv), ("tail".toList, tail), ("shutdown".toList, shutdown), ("raw".toList, raw)]

/-- What can be done about tracing, by name. -/
def TraceVerb.names : List (Text × TraceVerb) :=
  [("start".toList, start), ("run".toList, run), ("stop".toList, stop), ("status".toList, status),
    ("enable".toList, enable), ("disable".toList, disable)]

/-- The command with subcommands about tracing. -/
def traceName : Text := "trace".toList

/-- The subcommand that asks for help. -/
def helpName : Text := "help".toList

/-- A command with these subcommands, switches of its own and arguments. -/
def grammar (subcommands : List Text) (own : List Switch) (places : Places) : Grammar where
  switches := commonSwitches.map (·.1) ++ own
  subcommands := subcommands
  places := places

/-- The words before the command. -/
def outerGrammar : Grammar :=
  grammar (helpName :: traceName :: Verb.names.map (·.1))
    [⟨"version".toList, some 'V', .ends .version⟩] (.each [])

/-- The words between the command about tracing and what is to be done. -/
def traceGrammar : Grammar :=
  grammar (helpName :: TraceVerb.names.map (·.1)) [] (.each [])

/-- A flag that has no letter. -/
def flag (long : Text) : Switch :=
  ⟨long, none, .flag⟩

/-- What a command admits. -/
def Verb.grammar : Verb → Grammar
  | version | ping => Cli.grammar [] [] (.each [])
  | ls | stat | cat | tail => Cli.grammar [] [] (.each [.text])
  | mv => Cli.grammar [] [] (.each [.text, .text])
  | get => Cli.grammar [] [] (.each [.text, .path])
  | put => Cli.grammar [] [] (.each [.path, .text])
  | exec => Cli.grammar [] [flag "async".toList] .wholeRest
  | shutdown => Cli.grammar [] [flag "confirm".toList] (.each [])
  | raw => Cli.grammar [] [flag "chunked".toList] .wholeRest

/-- What a command about tracing admits. -/
def TraceVerb.grammar : TraceVerb → Grammar
  | start | enable | disable => Cli.grammar [] [] .anyNumber
  | run => Cli.grammar [] [⟨"filter".toList, some 'f', .values⟩] .behindDashes
  | stop | status => Cli.grammar [] [] (.each [])

/-- The texts that words are, if all of them are. -/
def textsOf? (words : List Word) : Option (List Text) :=
  words.mapM Word.text?

/-- Words with a space between neighbours, if there are any and all are texts. -/
def phrase? (words : List Word) : Option Text :=
  if words = [] then none else (textsOf? words).map (Text.join [' '])

/-- The action of a command. -/
def Verb.action? (verb : Verb) (s : Scanned) : Option Action :=
  -- Too many arguments, and those of another kind, were refused as they came.
  match verb, s.arguments.reverse with
  | version, _ => some .version
  | ping, _ => some .ping
  | ls, [path] => path.text?.map .list
  | stat, [path] => path.text?.map .stat
  | cat, [path] => path.text?.map .cat
  | get, [remote] => remote.text?.map fun remote => .get remote none
  | get, [remote, target] => remote.text?.map fun remote => .get remote (some target)
  | put, [source, remote] => remote.text?.map fun remote => .put source remote
  | exec, words =>
    (phrase? words).map fun command =>
      if s.has "async".toList then .execAsync command else .exec command
  | mv, [source, target] => do return .rename (← source.text?) (← target.text?)
  | tail, [path] => path.text?.map fun path => .stream (.tail path)
  | shutdown, _ => some (.shutdown (s.has "confirm".toList))
  | raw, words => (phrase? words).map fun line => .raw line (s.has "chunked".toList)
  | _, _ => none

/-- The action of a command about tracing. -/
def TraceVerb.action? (verb : TraceVerb) (s : Scanned) : Option Action :=
  let words := s.arguments.reverse
  match verb with
  | start => (textsOf? words).map fun filters => .stream (.traceStart filters)
  | run => do
    let filters ← textsOf? (s.valuesOf "filter".toList)
    return .stream (.traceRun filters (← phrase? words))
  | stop => some .traceStop
  | status => some .traceStatus
  | enable => (textsOf? words).map .traceEnable
  | disable => (textsOf? words).map .traceDisable

/-- Help may be asked for on commands that there are. -/
def helpOnTrace : List Text → NoAction
  | [] => .help
  | [name] => if (TraceVerb.names.lookup name).isSome ∨ name = helpName then .help else .misuse
  | _ => .misuse

/-- Help may be asked for on commands that there are. -/
def helpOn : List Text → NoAction
  | [] => .help
  | name :: rest =>
    if name = traceName then helpOnTrace rest
    else if ((Verb.names.lookup name).isSome ∨ name = helpName) ∧ rest = [] then .help
    else .misuse

/-- The words behind the command about tracing, outermost first, and the action. -/
def scanTrace (words : List Word) : Except NoAction (List Scanned × Action) := do
  let (middle, command?) ← scan traceGrammar .empty words
  -- Without a subcommand there is nothing to do.
  let some (name, rest) := command? | throw .misuse
  match TraceVerb.names.lookup name with
  | none => throw (helpOnTrace (rest.map Utf8.decode))
  | some verb =>
    let (inner, _) ← scan verb.grammar .empty rest
    match verb.action? inner with
    | some action => return ([middle, inner], action)
    | none => throw .misuse

/-- The words at all depths of subcommands, outermost first, and the action. -/
def scanAll (words : List Word) : Except NoAction (List Scanned × Action) := do
  let (outer, command?) ← scan outerGrammar .empty words
  let some (name, rest) := command? | throw .misuse
  if name = traceName then
    let (levels, action) ← scanTrace rest
    return (outer :: levels, action)
  else match Verb.names.lookup name with
    | none => throw (helpOn (rest.map Utf8.decode))
    | some verb =>
      let (inner, _) ← scan verb.grammar .empty rest
      match verb.action? inner with
      | some action => return ([outer, inner], action)
      | none => throw .misuse

/-- Whether a variable of the environment may stand in wherever a switch is not given. -/
def admits (environment : Environment) (levels : List Scanned) : Switch × Option Text → Bool
  | (⟨long, _, .value accepts⟩, some name) =>
    match environment.lookup name with
    -- The variable is looked at at every depth where the switch is not given.
    | some value => accepts value || levels.all fun s => s.has long
    | none => true
  | _ => true

/-- The value of a switch. -/
def valueOf (environment : Environment) (levels : List Scanned) (long : String) : Option Word :=
  -- The word closest to the action counts, and any word before the environment.
  let name? := (commonSwitches.find? fun (s, _) => s.long = long.toList).bind (·.2)
  levels.reverse.findSome? (fun s => s.value? long.toList)
    <|> name?.bind fun name => environment.lookup name

/-- What the words of a command line ask for. -/
def Invocation.parse (words : List Word) (environment : Environment) :
    Except NoAction Invocation := do
  let (levels, action) ← scanAll words
  -- Words that ask for help come before complaints about the environment.
  if !commonSwitches.all (admits environment levels) then throw .misuse
  let text (long : String) : Option Text := (valueOf environment levels long).bind Word.text?
  let given : GivenSettings := {
    host := text "host"
    port := (text "port").bind fun t =>
      (Decimal.int? 0 (UInt16.size - 1) t).map fun n => UInt16.ofNat n.toNat
    timeout := (text "timeout").bind Decimal.uint64?
    streamTimeout := (text "stream-timeout").bind Decimal.uint64?
    encoding := (text "encoding").bind fun t => (Encoding.parse t).toOption }
  let json := levels.any fun s => s.has "json".toList
  return ⟨given, valueOf environment levels "config", json, action⟩

end AmigaRemote.Cli
