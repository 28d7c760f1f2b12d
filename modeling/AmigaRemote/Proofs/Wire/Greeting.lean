import AmigaRemote.Proofs.Text.Decimal
import AmigaRemote.Proofs.Text.Words
import AmigaRemote.Wire.Banner

/-! A line is taken for a greeting exactly if it is one, and a line that is none is reported
whole. -/

namespace AmigaRemote

/-- A line that greets with three numbers: the name of the daemon and a space, and the numbers
behind them with single dots in between. -/
def Greets (line : Text) (major minor patch : Nat) : Prop :=
  ∃ first second third : Text,
    line = "AMIGACTL ".toList ++ (first ++ '.' :: (second ++ '.' :: third)) ∧
      Decimal.Spells major first ∧ Decimal.Spells minor second ∧ Decimal.Spells patch third

/-- No number has a dot in it. -/
theorem Decimal.Spells.noDot {n : Nat} {t : Text} (spells : Spells n t) : '.' ∉ t := by
  -- A dot is neither a plus nor a digit.
  intro member
  rcases spells.isDigit member with same | digit
  · cases same
  · cases digit

namespace ProtocolVersion

/-- A text is read as a version exactly if its numbers stand there with single dots between
them. -/
theorem parse?_eq_some {t : Text} {v : ProtocolVersion} :
    parse? t = some v ↔
      ∃ first second third : Text, t = first ++ '.' :: (second ++ '.' :: third) ∧
        Decimal.Spells v.major.toNat first ∧ Decimal.Spells v.minor.toNat second ∧
          Decimal.Spells v.patch.toNat third := by
  unfold parse?
  constructor
  · intro read
    -- Only three fields are read at all, and nothing but dots lies between them.
    split at read
    · rename_i first second third cut
      have whole := Text.join_fields '.' t
      rw [cut] at whole
      simp only [Option.bind_eq_bind, Option.bind_eq_some_iff, Option.pure_def,
        Option.some.injEq] at read
      obtain ⟨major, isMajor, minor, isMinor, patch, isPatch, rfl⟩ := read
      refine ⟨first, second, third, ?_, Decimal.uint32?_eq_some.mp isMajor,
        Decimal.uint32?_eq_some.mp isMinor, Decimal.uint32?_eq_some.mp isPatch⟩
      simpa [Text.join, List.intercalate] using whole.symm
    · cases read
  · rintro ⟨first, second, third, rfl, isMajor, isMinor, isPatch⟩
    -- The numbers have no dots of their own, so the two dots are all the cuts there are.
    rw [Text.fields_of_free_append isMajor.noDot, Text.fields_of_free_append isMinor.noDot,
      Text.fields_of_free isPatch.noDot]
    simp only [Decimal.uint32?_eq_some.mpr isMajor, Decimal.uint32?_eq_some.mpr isMinor,
      Decimal.uint32?_eq_some.mpr isPatch]
    rfl

/-- A version is read as it was written. -/
theorem parse?_render (v : ProtocolVersion) : parse? v.render = some v := by
  -- Its three numbers are written in digits, with the dots between them.
  refine parse?_eq_some.mpr ⟨_, _, _, ?_, Decimal.spells_ofNat _, Decimal.spells_ofNat _,
    Decimal.spells_ofNat _⟩
  simp [render]

end ProtocolVersion

namespace Banner

/-- A line is read as a version exactly if it greets with the numbers of the version. -/
theorem parse_eq_ok {line : Text} {v : ProtocolVersion} :
    parse line = .ok v ↔ Greets line v.major.toNat v.minor.toNat v.patch.toNat := by
  -- What counts is what stands behind the name, if the name stands in front.
  have read : parse line = .ok v ↔
      ∃ rest, line.after? lead = some rest ∧ ProtocolVersion.parse? rest = some v := by
    rw [← Option.bind_eq_some_iff]
    unfold parse
    split
    · rename_i found
      simp [found]
    · rename_i none
      simp [none]
  rw [read]
  constructor
  · rintro ⟨rest, follows, isVersion⟩
    obtain ⟨first, second, third, rfl, numbers⟩ := ProtocolVersion.parse?_eq_some.mp isVersion
    exact ⟨first, second, third, Text.eq_append_of_after? follows, numbers⟩
  · rintro ⟨first, second, third, rfl, numbers⟩
    exact ⟨_, Text.after?_append lead _,
      ProtocolVersion.parse?_eq_some.mpr ⟨first, second, third, rfl, numbers⟩⟩

/-- A line that is refused is reported whole, whichever of its parts is at fault. -/
theorem parse_eq_error {line : Text} {e : WireError} :
    parse line = .error e ↔ e = .invalidBanner line ∧ ∀ v, parse line ≠ .ok v := by
  -- There is one error only, and it names the line.
  unfold parse
  split
  · rename_i v found
    simp
  · simp [eq_comm]

/-- Three numbers of thirty-two bits are the numbers of a version. -/
theorem exists_version {line : Text} :
    (∃ v : ProtocolVersion, Greets line v.major.toNat v.minor.toNat v.patch.toNat) ↔
      ∃ major minor patch, Greets line major minor patch ∧
        major < UInt32.size ∧ minor < UInt32.size ∧ patch < UInt32.size := by
  constructor
  · rintro ⟨v, greets⟩
    exact ⟨_, _, _, greets, v.major.toNat_lt_size, v.minor.toNat_lt_size, v.patch.toNat_lt_size⟩
  · rintro ⟨major, minor, patch, greets, smallMajor, smallMinor, smallPatch⟩
    refine ⟨⟨.ofNat major, .ofNat minor, .ofNat patch⟩, ?_⟩
    -- A number that fits is kept as it is.
    simpa only [UInt32.toNat_ofNat_of_lt' smallMajor, UInt32.toNat_ofNat_of_lt' smallMinor,
      UInt32.toNat_ofNat_of_lt' smallPatch] using greets

/-- A line is accepted exactly if it greets with three numbers of thirty-two bits, and then as the
version of these numbers in their order. Any other line is refused, and reported whole. So the
greeting of every version is read as that version. -/
theorem parse_grammar (line : Text) :
    (∀ v, parse line = .ok v ↔ Greets line v.major.toNat v.minor.toNat v.patch.toNat) ∧
      ((∃ v, parse line = .ok v) ↔ ∃ major minor patch, Greets line major minor patch ∧
        major < UInt32.size ∧ minor < UInt32.size ∧ patch < UInt32.size) ∧
      (∀ e, parse line = .error e ↔ e = .invalidBanner line ∧ ∀ v, parse line ≠ .ok v) ∧
      ∀ v : ProtocolVersion, parse ("AMIGACTL ".toList ++ v.render) = .ok v := by
  refine ⟨fun v => parse_eq_ok, ?_, fun e => parse_eq_error, fun v => ?_⟩
  · rw [← exists_version]
    exact exists_congr fun v => parse_eq_ok
  · -- What is written behind the name is read as it was written.
    obtain ⟨first, second, third, same, numbers⟩ :=
      ProtocolVersion.parse?_eq_some.mp (ProtocolVersion.parse?_render v)
    exact parse_eq_ok.mpr ⟨first, second, third, by rw [same], numbers⟩

/-- Numbers may begin with a plus and with zeros. -/
example : parse "AMIGACTL +0.007.3".toList = .ok ⟨0, 7, 3⟩ := by decide

end Banner
end AmigaRemote
