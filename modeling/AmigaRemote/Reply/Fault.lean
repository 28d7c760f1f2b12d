import AmigaRemote.Text.Decimal
import AmigaRemote.Text.Quoted

/-! Why a well-framed reply cannot be understood. -/

namespace AmigaRemote

/-- Why a reply cannot be understood. -/
inductive ReplyFault where
  /-- A line of a listing without a kind, a name or a size. -/
  | malformedEntry (line : Text)
  /-- A line that names no field. -/
  | noField (line : Text)
  /-- A required field does not occur. -/
  | missingField (key : Text)
  /-- No object has this kind. -/
  | unknownKind (kind : Text)
  /-- A size that is no number. -/
  | invalidSize (size : Text)
  /-- No line tells the version. -/
  | noVersion
  /-- A download brought more or less than it announced. -/
  | sizeDiffers (announced sent : Nat)
  /-- An upload was acknowledged with something else than a size. -/
  | acknowledgement (info : Text)
  /-- The info has no return code. -/
  | noReturnCode (info : Text)
  /-- The info has no process number. -/
  | noProcess (info : Text)
  deriving DecidableEq, Repr

/-- The words for a reply that cannot be understood. -/
def ReplyFault.message : ReplyFault → Text
  | malformedEntry line => "malformed DIR entry: ".toList ++ Quoted.text line
  | noField line => "expected key=value, got ".toList ++ Quoted.text line
  | missingField key => "STAT reply lacks ".toList ++ Quoted.text key
  | unknownKind kind => "unknown object type ".toList ++ Quoted.text kind
  | invalidSize size => "invalid size ".toList ++ Quoted.text size
  | noVersion => "empty VERSION reply".toList
  | sizeDiffers announced sent =>
    "READ announced ".toList ++ Decimal.ofNat announced ++ " bytes but sent ".toList
      ++ Decimal.ofNat sent
  | acknowledgement info => "WRITE acknowledged with ".toList ++ Quoted.text info
  | noReturnCode info => "missing rc in ".toList ++ Quoted.text info
  | noProcess info => "EXEC ASYNC returned ".toList ++ Quoted.text info

end AmigaRemote
