import AmigaRemote.Wire.Error

/-! The line with which the daemon greets: its name and the version of the protocol. -/

namespace AmigaRemote

/-- A version of the protocol. -/
structure ProtocolVersion where
  major : UInt32
  minor : UInt32
  patch : UInt32
  deriving DecidableEq, Repr

namespace ProtocolVersion

/-- The three numbers with dots between them. -/
def render (v : ProtocolVersion) : Text :=
  Decimal.ofNat v.major.toNat ++ '.' :: Decimal.ofNat v.minor.toNat
    ++ '.' :: Decimal.ofNat v.patch.toNat

/-- Exactly three numbers with dots between them. -/
def parse? (t : Text) : Option ProtocolVersion :=
  -- Fewer parts or more of them are no version.
  match t.fields '.' with
  | [major, minor, patch] => do
    return ⟨← Decimal.uint32? major, ← Decimal.uint32? minor, ← Decimal.uint32? patch⟩
  | _ => none

/-- A version on its own, refused with the whole text. -/
def parse (t : Text) : Except WireError ProtocolVersion :=
  match parse? t with
  | some v => .ok v
  | none => .error (.invalidBanner t)

/-- Versions are ordered by their first number, then the second, then the third. -/
def order (a b : ProtocolVersion) : Ordering :=
  (compare a.major b.major).then ((compare a.minor b.minor).then (compare a.patch b.patch))

end ProtocolVersion

namespace Banner

/-- How the greeting begins. -/
def lead : Text := "AMIGACTL ".toList

/-- The version in a greeting, refused with the whole line. -/
def parse (line : Text) : Except WireError ProtocolVersion :=
  -- Whichever part is at fault, the whole line is reported.
  match (line.after? lead).bind ProtocolVersion.parse? with
  | some v => .ok v
  | none => .error (.invalidBanner line)

end Banner

end AmigaRemote
