import AmigaRemote.Cli.Directory
import AmigaRemote.Cli.Palette
import AmigaRemote.Client.Operations
import AmigaRemote.Json.Value

/-! What a run shows of results: documents for programs, lines for people. Data of the daemon goes
to the output as it is, and remarks about it elsewhere. -/

namespace AmigaRemote.Cli

/-- One thing that a run does for its user to see. -/
inductive Emission where
  /-- Bytes to the standard output. -/
  | output (bytes : Bytes)
  /-- Text to where errors and remarks go. -/
  | remark (text : Text)
  /-- The content of a file in the local file system. -/
  | file (path : Path) (content : Bytes)
  deriving DecidableEq, Repr

/-- How results are shown. -/
structure Manner where
  /-- As documents for programs. -/
  json : Bool
  /-- With colours. -/
  coloured : Bool
  /-- The encoding of the daemon's data. -/
  encoding : Encoding
  deriving DecidableEq, Repr

/-- A line to the standard output. -/
def say (line : Text) : Emission :=
  .output (Utf8.encode (line ++ ['\n']))

/-- A line to where errors and remarks go. -/
def mention (line : Text) : Emission :=
  .remark (line ++ ['\n'])

namespace Manner

/-- Text with an emphasis. -/
def paint (m : Manner) (e : Emphasis) (text : Text) : Text :=
  emphasise m.coloured e 0 text

/-- A name and a value in two columns. -/
def column (m : Manner) (width : Nat) (name value : Text) : Text :=
  emphasise m.coloured .cyan width name ++ value

/-- A document, or what is shown to people instead. -/
def document (m : Manner) (value : JsonValue) (lines : List Text) : List Emission :=
  if m.json then [say value.spacious] else lines.map say

/-- Something went well. -/
def done (m : Manner) (what : String) : List Emission :=
  m.document
    (.object [("operation".toList, .string what.toList), ("status".toList, .string "ok".toList)])
    [m.paint .green "OK".toList]

/-- The versions of the daemon and of the protocol. -/
def version (m : Manner) (version : Text) (protocol : ProtocolVersion) : List Emission :=
  let numbers : JsonValue := .object [
    ("major".toList, .nat protocol.major.toNat),
    ("minor".toList, .nat protocol.minor.toNat),
    ("patch".toList, .nat protocol.patch.toNat)]
  m.document (.object [("protocol".toList, numbers), ("version".toList, .string version)])
    [version]

/-- One entry of a directory as a document. -/
def entryDocument (e : DirEntry) : JsonValue :=
  .object [
    ("kind".toList, .string e.kind.name),
    ("name".toList, .string e.name),
    ("size".toList, .nat e.size.toNat),
    ("protection".toList, .string e.protection),
    ("datestamp".toList, .string e.datestamp)]

/-- One entry of a directory as a line. A directory has no size. -/
def entryLine (m : Manner) (e : DirEntry) : Text :=
  -- Marks of emphasis count for the width of this column.
  let size := if e.isDir then m.paint .dimmed "(dir)".toList else Decimal.ofNat e.size.toNat
  let name := if e.isDir then m.paint .strongBlue e.name else e.name
  Text.join [' ', ' '] [size.padLeft 10, e.protection, e.datestamp, name]

/-- The entries of a directory. -/
def listing (m : Manner) (entries : List DirEntry) : List Emission :=
  m.document (.array (entries.map entryDocument)) (entries.map m.entryLine)

/-- Fields as a document. -/
def fieldsDocument (fields : Fields) : JsonValue :=
  .object (fields.entries.map fun (key, value) => (key, .string value))

/-- What is known about an object. -/
def object (m : Manner) (o : ObjectInfo) : List Emission :=
  let line (key : String) (value : Text) : Text × Text := (key.toList, value)
  let known := [line "name" o.name, line "type" o.kind.title,
    line "size" (Decimal.ofNat o.size.toNat)]
  let perhaps := [("protection", o.protection), ("datestamp", o.datestamp),
    ("comment", o.comment)].filterMap fun (key, value) => value.map (line key)
  m.document
    (.object [
      ("kind".toList, .string o.kind.name),
      ("name".toList, .string o.name),
      ("size".toList, .nat o.size.toNat),
      ("protection".toList, .optional o.protection),
      ("datestamp".toList, .optional o.datestamp),
      ("comment".toList, .optional o.comment),
      ("extra".toList, fieldsDocument o.extra)])
    ((known ++ perhaps ++ o.extra.entries).map fun (key, value) => m.column 12 key value)

/-- The state of the tracer. -/
def tracer (m : Manner) (s : TraceStatus) : List Emission :=
  let state :=
    if !s.loaded then m.paint .red "not loaded".toList
    else if !s.enabled then m.paint .yellow "disabled".toList
    else m.paint .green "enabled".toList
  -- The two fields behind the state are not shown again.
  let others := s.fields.entries.filter fun (key, _) =>
    key ≠ "loaded".toList ∧ key ≠ "enabled".toList
  m.document (fieldsDocument s.fields)
    ((("tracing".toList, state) :: others).map fun (key, value) => m.column 18 key value)

/-- Data of the daemon. In a document it comes first, before what else there is to say. -/
def data (m : Manner) (bytes : Bytes) (more : List (String × JsonValue)) : List Emission :=
  if m.json then
    -- A document holds text, so the bytes are decoded. For people they are left alone.
    let text : Text × JsonValue := ("data".toList, .string (m.encoding.decode bytes))
    [say (JsonValue.object (text :: more.map fun (key, v) => (key.toList, v))).spacious]
  else [.output bytes]

/-- A copy that was made. -/
def copied (m : Manner) (size : Nat) (name remote shown : Text) : List Emission :=
  m.document
    (.object [
      ("bytes".toList, .nat size),
      ("local".toList, .string name),
      ("remote".toList, .string remote)])
    [Decimal.ofNat size ++ " bytes -> ".toList ++ shown]

/-- A program that was started. -/
def started (m : Manner) (process : UInt32) : List Emission :=
  m.document (.object [("pid".toList, .nat process.toNat)])
    ["Started process ".toList ++ Decimal.ofNat process.toNat]

/-- A reply in lines, whatever it means. -/
def reply (m : Manner) (r : Response) : List Emission :=
  -- A reply that says no more than yes has nothing to show for it.
  let info := if r.info = [] then [] else [m.paint .green "OK".toList ++ ' ' :: r.info]
  m.document
    (.object [
      ("info".toList, .string r.info),
      ("lines".toList, .array (r.lines.map .string))])
    (info ++ r.lines)

/-- A notice within a document. -/
def noticeDocument : Notice → JsonValue
  | .processExited rc =>
    .object [("kind".toList, .string "process_exited".toList), ("rc".toList, .int rc.toInt)]
  | .overflow dropped =>
    .object [("dropped".toList, .nat dropped.toNat), ("kind".toList, .string "overflow".toList)]
  | .other _ => .null

/-- An event of a stream as a document. -/
def eventDocument (m : Manner) : StreamEvent → JsonValue
  | .data bytes =>
    .object [("event".toList, .string "data".toList),
      ("text".toList, .string (m.encoding.decode bytes))]
  | .comment text =>
    .object [("event".toList, .string "comment".toList),
      ("notice".toList, noticeDocument (.parse text)), ("text".toList, .string text)]
  | .ended => .object [("event".toList, .string "end".toList)]
  | .aborted e =>
    .object [
      ("error".toList, .object [
        ("code".toList, .nat e.code.toNat),
        ("kind".toList, .string e.kind.name),
        ("message".toList, .string e.detail)]),
      ("event".toList, .string "error".toList)]

/-- A notice for people. -/
def noticeLine (m : Manner) : Notice → Text
  | .processExited rc =>
    let number := m.paint (if rc = 0 then .green else .red) (Decimal.ofInt rc.toInt)
    m.paint .yellow "Process exited, rc".toList ++ ' ' :: number
  | .overflow dropped =>
    m.paint .red ("Trace buffer overflow, ".toList ++ Decimal.ofNat dropped.toNat
      ++ " events dropped".toList)
  | .other text => m.paint .dimmed text

/-- An event of a stream. For people, only data goes to the standard output. -/
def event (m : Manner) (e : StreamEvent) : List Emission :=
  -- One event a line, for programs that read as events come.
  if m.json then [say (m.eventDocument e).compact]
  else match e with
    | .data bytes => [.output bytes]
    | .comment text => [mention (m.noticeLine (.parse text))]
    | .ended => [mention (m.paint .dimmed "Stream ended.".toList)]
    | .aborted _ => []

end Manner

end AmigaRemote.Cli
