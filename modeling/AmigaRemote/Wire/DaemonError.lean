import AmigaRemote.Text.Decimal

/-! Errors that the daemon reports in `ERR` lines. -/

namespace AmigaRemote

/-- The classes of errors that the daemon has codes for. -/
inductive ErrorKind where
  /-- A malformed or unknown command. -/
  | commandSyntax
  /-- A path, script host or resource does not exist. -/
  | notFound
  /-- The operation is not permitted. -/
  | permissionDenied
  /-- The target exists already. -/
  | alreadyExists
  /-- The file system failed. -/
  | remoteFailure
  /-- The operation took too long on the daemon's side. -/
  | remoteTimeout
  /-- The daemon failed unexpectedly. -/
  | internal
  /-- Any code outside the table. -/
  | unknown
  deriving DecidableEq, Repr

namespace ErrorKind

/-- The class of a code. -/
def ofCode (code : UInt32) : ErrorKind :=
  match code.toNat with
  | 100 => commandSyntax
  | 200 => notFound
  | 201 => permissionDenied
  | 202 => alreadyExists
  | 300 => remoteFailure
  | 400 => remoteTimeout
  | 500 => internal
  | _ => unknown

/-- The code of a class. -/
def code? : ErrorKind → Option UInt32
  | commandSyntax => some 100
  | notFound => some 200
  | permissionDenied => some 201
  | alreadyExists => some 202
  | remoteFailure => some 300
  | remoteTimeout => some 400
  | internal => some 500
  | unknown => none

/-- The words for a class. -/
def describe : ErrorKind → Text
  | commandSyntax => "command syntax".toList
  | notFound => "not found".toList
  | permissionDenied => "permission denied".toList
  | alreadyExists => "already exists".toList
  | remoteFailure => "remote I/O".toList
  | remoteTimeout => "remote timeout".toList
  | internal => "internal".toList
  | unknown => "unknown".toList

/-- The name of a class in structured output. -/
def name : ErrorKind → Text
  | commandSyntax => "CommandSyntax".toList
  | notFound => "NotFound".toList
  | permissionDenied => "PermissionDenied".toList
  | alreadyExists => "AlreadyExists".toList
  | remoteFailure => "RemoteIo".toList
  | remoteTimeout => "RemoteTimeout".toList
  | internal => "Internal".toList
  | unknown => "Unknown".toList

end ErrorKind

/-- An error that the daemon reported. Its class follows from its code. -/
structure DaemonError where
  code : UInt32
  detail : Text
  deriving DecidableEq, Repr

namespace DaemonError

/-- The class of an error. -/
def kind (e : DaemonError) : ErrorKind :=
  .ofCode e.code

/-- The words for an error. -/
def message (e : DaemonError) : Text :=
  e.kind.describe ++ " error ".toList ++ Decimal.ofNat e.code.toNat ++ ": ".toList ++ e.detail

/-- The info of an `ERR` line that reports an error. -/
def info (e : DaemonError) : Text :=
  Decimal.ofNat e.code.toNat ++ ' ' :: e.detail

/-- The error that the info of an `ERR` line reports. Info that does not begin with a code is all
detail, under code zero. -/
def ofInfo (info : Text) : DaemonError :=
  -- Without a space all of the info is the token, and there is no detail.
  let (token, detail) := (info.splitFirst? ' ').getD (info, [])
  match Decimal.uint32? token with
  | some code => ⟨code, detail⟩
  | none => ⟨0, info⟩

end DaemonError

end AmigaRemote
