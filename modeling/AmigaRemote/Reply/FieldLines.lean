import AmigaRemote.Reply.Fault
import AmigaRemote.Reply.Fields
import AmigaRemote.Text.Case
import AmigaRemote.Text.Space

/-! Replies of one field a line, key and value separated by the first equals sign. -/

namespace AmigaRemote.Fields

/-- The key of a line in small letters and its value as it stands. -/
def parseLine (line : Text) : Except ReplyFault (Text × Text) :=
  -- A value may hold further equals signs.
  match line.splitFirst? '=' with
  | some (key, value) => .ok (key.trim.toSmall, value)
  | none => .error (.noField line)

/-- The fields of all lines. Of several values of a key the last one counts. -/
def parseLines (lines : List Text) : Except ReplyFault Fields := do
  -- One line without a key spoils the whole reply.
  let entries ← lines.mapM parseLine
  return entries.foldl (fun fields (key, value) => fields.insert key value) empty

end AmigaRemote.Fields
