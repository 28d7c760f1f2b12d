import AmigaRemote.Reply.FieldLines

/-! The state of the daemon's tracer. -/

namespace AmigaRemote

/-- The state of the tracer, by field. -/
structure TraceStatus where
  fields : Fields

namespace TraceStatus

/-- The state that the lines of a reply tell. -/
def parse (lines : List Text) : Except ReplyFault TraceStatus :=
  return ⟨← Fields.parseLines lines⟩

/-- A field as it stands. -/
def get? (s : TraceStatus) (key : Text) : Option Text :=
  s.fields.get? key

/-- A field that is a number. -/
def number? (s : TraceStatus) (key : Text) : Option UInt64 :=
  (s.get? key).bind Decimal.uint64?

/-- Whether a field is there and says yes. -/
def flag (s : TraceStatus) (key : Text) : Bool :=
  -- A field that is missing says no, and so does any word not known to say yes.
  match s.get? key with
  | none => false
  | some value =>
    ["1".toList, "yes".toList, "true".toList, "on".toList].any fun word => word = value.toSmall

/-- Whether the tracer is loaded. -/
def loaded (s : TraceStatus) : Bool :=
  s.flag "loaded".toList

/-- Whether tracing is enabled. -/
def enabled (s : TraceStatus) : Bool :=
  s.flag "enabled".toList

end TraceStatus

end AmigaRemote
