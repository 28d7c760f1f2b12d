import AmigaRemote.Reply.DirEntry
import AmigaRemote.Reply.FieldLines

/-! What the daemon tells about one object of the file system. -/

namespace AmigaRemote

/-- What is known about one object. -/
structure ObjectInfo where
  kind : EntryKind
  name : Text
  size : UInt64
  protection : Option Text
  datestamp : Option Text
  comment : Option Text
  /-- Fields that mean nothing to this client. -/
  extra : Fields

namespace ObjectInfo

/-- The value of a required field, and the other fields. -/
def takeField (fields : Fields) (key : Text) : Except ReplyFault (Text × Fields) :=
  match fields.get? key with
  | some value => .ok (value, fields.erase key)
  | none => .error (.missingField key)

/-- Type, name and size are required, in this order of complaint. An empty comment is none. -/
def ofFields (fields : Fields) : Except ReplyFault ObjectInfo := do
  -- A kind that is unknown is complained of before a name that is missing.
  let (kindText, fields) ← takeField fields "type".toList
  let kind ← match EntryKind.parse? kindText with
    | some kind => .ok kind
    | none => .error (.unknownKind kindText)
  let (name, fields) ← takeField fields "name".toList
  let (sizeText, fields) ← takeField fields "size".toList
  let size ← match Decimal.uint64? sizeText with
    | some size => .ok size
    | none => .error (.invalidSize sizeText)
  -- What has a place of its own is no extra.
  let extra := ((fields.erase "protection".toList).erase "datestamp".toList).erase "comment".toList
  return {
    kind, name, size, extra
    protection := fields.get? "protection".toList
    datestamp := fields.get? "datestamp".toList
    comment := (fields.get? "comment".toList).filter (· ≠ []) }

/-- What the lines of a reply tell. -/
def parse (lines : List Text) : Except ReplyFault ObjectInfo := do
  ofFields (← Fields.parseLines lines)

end ObjectInfo

end AmigaRemote
