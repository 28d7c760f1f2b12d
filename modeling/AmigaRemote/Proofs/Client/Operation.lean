import AmigaRemote.Client.Upload
import AmigaRemote.Stream.Session

/-! All that a client can ask of a connection, as data, so that something can be said of any run of
operations. -/

namespace AmigaRemote

/-- What a client can ask of a connection. -/
inductive Operation where
  | version
  | ping
  | shutdown
  | dir (path : Text)
  | stat (path : Text)
  | read (path : Text)
  | write (path : Text) (data : Bytes)
  | exec (program : Text)
  | execAsync (program : Text)
  | arexx (host script : Text)
  | rename (source target : Text)
  | traceStop
  | traceStatus
  | traceEnable (names : List Text)
  | traceDisable (names : List Text)
  /-- Any line, whose reply carries lines. -/
  | command (line : Text)
  /-- Any line, whose reply carries data. -/
  | chunkedCommand (line : Text)
  /-- Any command, whatever the daemon says to it. -/
  | execute (asked : Command)
  | openStream (request : StreamRequest)
  deriving DecidableEq

namespace Operation

/-- What an operation gives if it succeeds. -/
def Result : Operation → Type
  | version => Text
  | dir _ => List DirEntry
  | stat _ => ObjectInfo
  | read _ => Bytes
  | write _ _ => UInt64
  | exec _ => ExecOutput
  | execAsync _ => UInt32
  | arexx _ _ => ScriptReply
  | traceStatus => TraceStatus
  | command _ | chunkedCommand _ | execute _ => Response
  | openStream _ => Stream
  | ping | shutdown | rename _ _ | traceStop | traceEnable _ | traceDisable _ => Unit

/-- Carries out an operation. -/
def perform : (op : Operation) → Client op.Result
  | version => Connection.askVersion
  | ping => Connection.ping
  | shutdown => Connection.shutdown
  | dir path => Connection.dir path
  | stat path => Connection.stat path
  | read path => Connection.read path
  | write path data => Connection.write path data
  | exec program => Connection.exec program
  | execAsync program => Connection.execAsync program
  | arexx host script => Connection.arexx host script
  | rename source target => Connection.rename source target
  | traceStop => Connection.traceStop
  | traceStatus => Connection.traceStatus
  | traceEnable names => Connection.traceEnable names
  | traceDisable names => Connection.traceDisable names
  | command line => Connection.command line
  | chunkedCommand line => Connection.chunkedCommand line
  | execute asked => Connection.execute asked
  | openStream request => Connection.openStream request

end Operation
end AmigaRemote
