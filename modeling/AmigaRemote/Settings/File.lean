import AmigaRemote.Settings.Basic
import AmigaRemote.Text.Utf8
import AmigaRemote.Toml.Statement

/-! Settings from a file and from elsewhere, each of which may be missing. -/

namespace AmigaRemote

/-- Settings as far as they are given. -/
structure GivenSettings where
  host : Option Text
  port : Option UInt16
  timeout : Option UInt64
  streamTimeout : Option UInt64
  encoding : Option Encoding
  deriving DecidableEq, Repr

/-- Why a file gives no settings. -/
inductive FileFault where
  /-- It cannot be read as a text. -/
  | unreadable (fault : Fault)
  /-- Its text is not a document of settings. -/
  | invalid
  deriving DecidableEq, Repr

namespace GivenSettings

/-- Nothing given. -/
def empty : GivenSettings :=
  ⟨none, none, none, none, none⟩

/-- The settings where `given` counts before `file`, and `file` before what is usual. -/
def resolve (given file : GivenSettings) : Settings where
  host := (given.host <|> file.host).getD Settings.usual.host
  port := (given.port <|> file.port).getD Settings.usual.port
  timeout := (given.timeout <|> file.timeout).getD Settings.usual.timeout
  streamTimeout := (given.streamTimeout <|> file.streamTimeout).getD Settings.usual.streamTimeout
  encoding := (given.encoding <|> file.encoding).getD Settings.usual.encoding

/-- A natural number up to `greatest`. -/
def nat? (greatest : Nat) : Toml.Value → Option Nat
  -- Numbers in quotes are texts and are refused.
  | .integer n => if 0 ≤ n ∧ n ≤ greatest then some n.toNat else none
  | _ => none

/-- The one value that a name may be given at most, as `read` understands it. -/
def find {α : Type} (entries : List Toml.Entry) (key : Text) (read : Toml.Value → Option α) :
    Option (Option α) :=
  -- A name that is given twice spoils the document.
  match entries.filter fun (path, _) => path = [key] with
  | [] => some none
  | [(_, value)] => (read value).map some
  | _ => none

/-- The name of an encoding, as a string or as the only name in a table, in any way of writing such
a table. -/
def encodingName? : List Toml.Entry → Option Text
  | [([_], .string name)] | [([_], .choice name)] => some name
  | [([_, name], .empty)] | [([_, name], .opened)] => some name
  | [([_], .opened), ([_, name], .empty)] => some name
  | [([_], .opened), ([_, name], .opened)] => some name
  | [([_, name], .opened), ([_], .opened)] => some name
  | _ => none

/-- The encoding that is given, if one is. -/
def findEncoding (entries : List Toml.Entry) : Option (Option Encoding) :=
  -- All statements about it are looked at together, since a table may be spread over several.
  match entries.filter fun (path, _) => path.head? = some "encoding".toList with
  | [] => some none
  | found => ((encodingName? found).bind Encoding.ofName?).map some

/-- The names of settings in a file. -/
def names : List Text :=
  ["host".toList, "port".toList, "timeout".toList, "stream_timeout".toList]

/-- The settings of a document that has no other names. -/
def ofEntries? (entries : List Toml.Entry) : Option GivenSettings := do
  -- A name that is misspelt should not be passed over in silence.
  let known := entries.all fun (path, _) =>
    path.head? = some "encoding".toList || names.any fun key => path = [key]
  if !known then none
  let text : Toml.Value → Option Text
    | .string t => some t
    | _ => none
  let seconds (v : Toml.Value) : Option UInt64 := (nat? (UInt64.size - 1) v).map UInt64.ofNat
  return {
    host := ← find entries "host".toList text
    port := ← find entries "port".toList fun v => (nat? (UInt16.size - 1) v).map UInt16.ofNat
    timeout := ← find entries "timeout".toList seconds
    streamTimeout := ← find entries "stream_timeout".toList seconds
    encoding := ← findEncoding entries }

/-- The settings that the bytes of a file give. -/
def ofFile (content : Bytes) : Except FileFault GivenSettings :=
  match Utf8.decode? content with
  | none => .error (.unreadable .notText)
  | some text =>
    match (Toml.entries text).bind ofEntries? with
    | some given => .ok given
    | none => .error .invalid

end GivenSettings

end AmigaRemote
