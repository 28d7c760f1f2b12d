import AmigaRemote.Text.Decimal
import AmigaRemote.Text.Space

/-! Numbers read back as they were written, and are written in plain characters that no reader of
words takes for anything else. -/

namespace AmigaRemote

/-- A digit is one of ten code points. -/
theorem Char.toNat_of_isDigit {c : Char} (digit : c.isDigit = true) :
    48 ≤ c.toNat ∧ c.toNat ≤ 57 := by
  -- The code points of the first and the last digit are the bounds.
  simp only [Char.isDigit, Bool.and_eq_true, decide_eq_true_eq, UInt32.le_iff_toNat_le,
    ge_iff_le] at digit
  exact digit

namespace Decimal

/-- A number is written in digits. -/
theorem isDigit_of_mem_ofNat {n : Nat} {c : Char} (member : c ∈ ofNat n) : c.isDigit = true :=
  -- In base ten the library writes digits only.
  Nat.isDigit_of_mem_toDigits (by decide) (by decide) member

/-- A number is written in one digit at least. -/
theorem ofNat_ne_nil (n : Nat) : ofNat n ≠ [] :=
  -- Even zero has one.
  Nat.toDigits_ne_nil

/-- The digits of a number are read as the number. -/
theorem digits?_ofNat (n : Nat) : digits? (ofNat n) = some n := by
  -- What was written are digits, and at least one.
  have all : (ofNat n).all Char.isDigit = true :=
    List.all_eq_true.mpr fun _ member => isDigit_of_mem_ofNat member
  unfold digits?
  rw [if_pos ⟨ofNat_ne_nil n, all⟩]
  exact congrArg some Nat.ofDigitChars_ten_toDigits

/-- A number that is not too large is read as it was written. -/
theorem nat?_ofNat {greatest n : Nat} (below : n ≤ greatest) : nat? greatest (ofNat n) = some n := by
  have found := digits?_ofNat n
  have signless := @isDigit_of_mem_ofNat n
  unfold nat?
  -- A digit is no sign.
  split
  · rename_i rest same
    rw [same] at signless
    cases signless List.mem_cons_self
  · rw [found]
    simp [Option.filter, below]

/-- What a number may be written as: digits, at least one of them and any zeros in front, behind a
plus or no sign at all. -/
def Spells (n : Nat) (t : Text) : Prop :=
  ∃ digits : Text, (t = digits ∨ t = '+' :: digits) ∧ digits ≠ [] ∧
    (∀ c ∈ digits, c.isDigit = true) ∧ Nat.ofDigitChars 10 digits 0 = n

/-- Digits are read as their value, and nothing else is read as digits. -/
theorem digits?_eq_some {t : Text} {n : Nat} :
    digits? t = some n ↔
      t ≠ [] ∧ (∀ c ∈ t, c.isDigit = true) ∧ Nat.ofDigitChars 10 t 0 = n := by
  -- The test for digits is what the three conditions say, apart from the value.
  unfold digits?
  simp only [List.all_eq_true]
  split
  · rename_i areDigits
    simp only [Option.some.injEq]
    exact ⟨fun value => ⟨areDigits.1, areDigits.2, value⟩, fun ⟨_, _, value⟩ => value⟩
  · rename_i other
    exact ⟨nofun, fun ⟨nonempty, all, _⟩ => absurd ⟨nonempty, all⟩ other⟩

/-- A number is read from what it may be written as and from nothing else. -/
theorem nat?_eq_some {greatest n : Nat} {t : Text} :
    nat? greatest t = some n ↔ Spells n t ∧ n ≤ greatest := by
  unfold nat?
  simp only [Option.filter_eq_some_iff, decide_eq_true_eq]
  refine and_congr_left fun _ => ?_
  unfold Spells
  -- A digit is no sign, so the first character tells how the text is read.
  split
  · rename_i rest
    rw [digits?_eq_some]
    constructor
    · rintro ⟨some, all, value⟩
      exact ⟨rest, .inr rfl, some, all, value⟩
    · rintro ⟨digits, rfl | signed, some, all, value⟩
      · cases all '+' List.mem_cons_self
      · cases signed
        exact ⟨some, all, value⟩
  · rename_i noSign
    rw [digits?_eq_some]
    constructor
    · rintro ⟨some, all, value⟩
      exact ⟨t, .inl rfl, some, all, value⟩
    · rintro ⟨digits, rfl | signed, some, all, value⟩
      · exact ⟨some, all, value⟩
      · exact absurd signed (noSign digits)

/-- A number of thirty-two bits is read from what it may be written as and from nothing else. -/
theorem uint32?_eq_some {n : UInt32} {t : Text} : uint32? t = some n ↔ Spells n.toNat t := by
  -- The bound on what is read is the one that the number keeps anyway.
  have fits : n.toNat ≤ UInt32.size - 1 := Nat.le_pred_of_lt n.toNat_lt
  simp only [uint32?, Option.map_eq_some_iff, nat?_eq_some]
  constructor
  · rintro ⟨m, ⟨spells, small⟩, rfl⟩
    rwa [UInt32.toNat_ofNat_of_lt' (Nat.lt_of_le_pred (by decide) small)]
  · intro spells
    exact ⟨n.toNat, ⟨spells, fits⟩, UInt32.ofNat_toNat⟩

/-- A number of sixty-four bits is read from what it may be written as and from nothing else. -/
theorem uint64?_eq_some {n : UInt64} {t : Text} : uint64? t = some n ↔ Spells n.toNat t := by
  -- A number of this type is at most the bound that the parser checks.
  have fits : n.toNat ≤ UInt64.size - 1 := Nat.le_pred_of_lt n.toNat_lt
  simp only [uint64?, Option.map_eq_some_iff, nat?_eq_some]
  constructor
  · rintro ⟨m, ⟨spells, small⟩, rfl⟩
    rwa [UInt64.toNat_ofNat_of_lt' (Nat.lt_of_le_pred (by decide) small)]
  · intro spells
    exact ⟨n.toNat, ⟨spells, fits⟩, UInt64.ofNat_toNat⟩

/-- A number is written as its digits. -/
theorem spells_ofNat (n : Nat) : Spells n (ofNat n) :=
  -- What can be read as a number spells it, and what is written can be read.
  (nat?_eq_some.mp (nat?_ofNat (Nat.le_refl n))).1

/-- A number is written in digits, with a plus in front at most. -/
theorem Spells.isDigit {n : Nat} {t : Text} (spells : Spells n t) {c : Char} (member : c ∈ t) :
    c = '+' ∨ c.isDigit = true := by
  -- With a plus or without, the rest are digits.
  obtain ⟨digits, rfl | rfl, _, all, _⟩ := spells
  · exact .inr (all c member)
  · exact (List.mem_cons.mp member).imp id (all c)

/-- A number is written in plain characters. -/
theorem Spells.plain {n : Nat} {t : Text} (spells : Spells n t) : ∀ c ∈ t, c.toNat < 0x80 := by
  obtain ⟨digits, shape, _, all, _⟩ := spells
  -- Digits and the plus are below the bound.
  have small : ∀ c ∈ digits, c.toNat < 0x80 := by
    intro c member
    have := Char.toNat_of_isDigit (all c member)
    omega
  rcases shape with rfl | rfl
  · exact small
  · exact List.forall_mem_cons.mpr ⟨by decide, small⟩

/-- A number within bounds is read as it was written. -/
theorem int?_ofInt {least greatest i : Int} (above : least ≤ i) (below : i ≤ greatest) :
    int? least greatest (ofInt i) = some i := by
  cases i with
  | ofNat n =>
    have found := digits?_ofNat n
    have signless := @isDigit_of_mem_ofNat n
    rw [show ofInt (Int.ofNat n) = ofNat n from rfl]
    unfold int?
    -- A digit is no sign.
    split
    · rename_i rest same
      rw [same] at signless
      cases signless List.mem_cons_self
    · rename_i rest same
      rw [same] at signless
      cases signless List.mem_cons_self
    · have within : least ≤ (n : Int) ∧ (n : Int) ≤ greatest := ⟨above, below⟩
      rw [found]
      simp [Option.filter, within]
  | negSucc n =>
    have found := digits?_ofNat (n + 1)
    have value : -((n + 1 : Nat) : Int) = Int.negSucc n := rfl
    simp only [int?, ofInt, found]
    change Option.filter _ (some (-((n + 1 : Nat) : Int))) = _
    rw [value]
    simp [Option.filter, above, below]

/-- A signed number of thirty-two bits is read as it was written. -/
theorem int32?_ofInt (n : Int32) : int32? (ofInt n.toInt) = some n := by
  -- Every number of this type is within the bounds that the parser checks.
  unfold int32?
  rw [int?_ofInt n.minValue_le_toInt n.toInt_le, Option.map_some, Int32.ofInt_toInt]

/-- What a signed number may be written as: what its amount may be written as, or the digits of its
amount behind a minus. -/
inductive SpellsInt : Int → Text → Prop where
  | plus {n : Nat} {t : Text} (spells : Spells n t) : SpellsInt n t
  | minus {digits : Text} (some : digits ≠ []) (all : ∀ c ∈ digits, c.isDigit = true) :
    SpellsInt (-(Nat.ofDigitChars 10 digits 0 : Int)) ('-' :: digits)

/-- A number within bounds is read from what it may be written as and from nothing else. -/
theorem int?_eq_some {least greatest i : Int} {t : Text} :
    int? least greatest t = some i ↔ SpellsInt i t ∧ least ≤ i ∧ i ≤ greatest := by
  unfold int?
  simp only [Option.filter_eq_some_iff, decide_eq_true_eq]
  refine and_congr_left fun _ => ?_
  -- A digit is no sign, so the first character tells how the text is read.
  split
  · rename_i rest
    simp only [Option.map_eq_some_iff, digits?_eq_some]
    constructor
    · rintro ⟨n, ⟨some, all, value⟩, rfl⟩
      exact .plus ⟨rest, .inr rfl, some, all, value⟩
    · rintro (⟨digits, rfl | signed, some, all, value⟩ | _)
      · cases all '+' List.mem_cons_self
      · cases signed
        exact ⟨_, ⟨some, all, value⟩, rfl⟩
  · rename_i rest
    simp only [Option.map_eq_some_iff, Option.bind_eq_bind, Option.bind_eq_some_iff,
      Option.pure_def, Option.some.injEq, digits?_eq_some]
    constructor
    · rintro ⟨_, ⟨n, ⟨some, all, rfl⟩, rfl⟩, rfl⟩
      exact .minus some all
    · rintro (⟨digits, rfl | signed, some, all, value⟩ | ⟨some, all⟩)
      · cases all '-' List.mem_cons_self
      · cases signed
      · exact ⟨_, ⟨_, ⟨some, all, rfl⟩, rfl⟩, rfl⟩
  · rename_i noPlus noMinus
    simp only [Option.map_eq_some_iff, digits?_eq_some]
    constructor
    · rintro ⟨n, ⟨some, all, value⟩, rfl⟩
      exact .plus ⟨t, .inl rfl, some, all, value⟩
    · rintro (⟨digits, rfl | signed, some, all, value⟩ | ⟨some, all⟩)
      · exact ⟨_, ⟨some, all, value⟩, rfl⟩
      · exact absurd signed (noPlus digits)
      · exact absurd rfl (noMinus _)

/-- A signed number of thirty-two bits is read from what it may be written as and from nothing
else. -/
theorem int32?_eq_some {n : Int32} {t : Text} : int32? t = some n ↔ SpellsInt n.toInt t := by
  -- Within the bounds, the number of the type and the integer determine each other.
  simp only [int32?, Option.map_eq_some_iff, int?_eq_some]
  constructor
  · rintro ⟨i, ⟨spells, above, below⟩, rfl⟩
    rwa [Int32.toInt_ofInt_of_le above (Int.lt_add_one_of_le below)]
  · intro spells
    exact ⟨n.toInt, ⟨spells, n.minValue_le_toInt, n.toInt_le⟩, Int32.ofInt_toInt n⟩

/-- A number of thirty-two bits is read from its digits. -/
theorem uint32?_ofNat (n : UInt32) : uint32? (ofNat n.toNat) = some n := by
  -- As for sixty-four bits, the bound holds of the type.
  have fits : n.toNat ≤ UInt32.size - 1 := Nat.le_pred_of_lt n.toNat_lt
  unfold uint32?
  rw [nat?_ofNat fits, Option.map_some, UInt32.ofNat_toNat]

/-- A number is written in digits and a minus. -/
theorem plain_of_mem_ofInt {i : Int} {c : Char} (member : c ∈ ofInt i) :
    45 ≤ c.toNat ∧ c.toNat ≤ 57 := by
  -- A number below zero is written with a minus in front of its digits.
  cases i with
  | ofNat n =>
    have := Char.toNat_of_isDigit (isDigit_of_mem_ofNat member)
    omega
  | negSucc n =>
    rcases List.mem_cons.mp member with rfl | member
    · decide
    · have := Char.toNat_of_isDigit (isDigit_of_mem_ofNat member)
      omega

end Decimal
end AmigaRemote
