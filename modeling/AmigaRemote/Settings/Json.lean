import AmigaRemote.Json.Parse
import AmigaRemote.Settings.Basic

/-! Settings as JSON documents. -/

namespace AmigaRemote

namespace JsonValue

/-- A whole number up to `greatest` that is written with digits alone. -/
def nat? (greatest : Nat) : JsonValue → Option Nat
  -- A sign, a fraction or an exponent is refused even where the value would fit.
  | number literal => if literal.all Char.isDigit then Decimal.nat? greatest literal else none
  | _ => none

/-- A string's text. -/
def text? : JsonValue → Option Text
  | string text => some text
  | _ => none

/-- An encoding by its name, which may also stand before a null. -/
def encoding? : JsonValue → Option Encoding
  | string name | object [(name, null)] => Encoding.ofName? name
  | _ => none

end JsonValue

namespace Settings

/-- The settings as an object. -/
def toJson (s : Settings) : JsonValue :=
  .object [
    ("host".toList, .string s.host),
    ("port".toList, .nat s.port.toNat),
    ("timeout_secs".toList, .nat s.timeout.toNat),
    ("stream_timeout_secs".toList, .nat s.streamTimeout.toNat),
    ("encoding".toList, .string s.encoding.name)]

/-- Settings from what is found for each of them, first to last. What is not found is as usual. -/
def ofFound? (found : Nat → Text → Option (Option JsonValue)) : Option Settings := do
  let host ← found 0 "host".toList
  let port ← found 1 "port".toList
  let timeout ← found 2 "timeout_secs".toList
  let streamTimeout ← found 3 "stream_timeout_secs".toList
  let encoding ← found 4 "encoding".toList
  return {
    host := ← host.elim (some usual.host) (·.text?)
    port := ← port.elim (some usual.port) fun v => (v.nat? (UInt16.size - 1)).map UInt16.ofNat
    timeout := ← timeout.elim (some usual.timeout)
      fun v => (v.nat? (UInt64.size - 1)).map UInt64.ofNat
    streamTimeout := ← streamTimeout.elim (some usual.streamTimeout)
      fun v => (v.nat? (UInt64.size - 1)).map UInt64.ofNat
    encoding := ← encoding.elim (some usual.encoding) (·.encoding?) }

/-- The settings in a document: an object, in which other names are of no concern, or an array that
lists them in order. A setting must not occur twice. -/
def ofJson? : JsonValue → Option Settings
  | .object members =>
    ofFound? fun _ name =>
      -- A setting that occurs twice is refused, even with the same value.
      match members.filter fun (other, _) => other = name with
      | [] => some none
      | [(_, value)] => some (some value)
      | _ => none
  -- What the array does not reach is as usual.
  | .array items => if items.length ≤ 5 then ofFound? fun place _ => some items[place]? else none
  | _ => none

end Settings

end AmigaRemote
