import AmigaRemote.Proofs.Text.Utf8
import Mathlib.Algebra.Group.Nat.Defs

/-! Plain bytes among bytes that need not be well formed. Each of them is read as itself, wherever it
stands, and nothing else is read as a plain character. -/

namespace AmigaRemote.Utf8

/-- The number of a character is the one it was made of. -/
theorem toNat_ofNat_of_valid {n : Nat} (valid : n.isValidChar) : (Char.ofNat n).toNat = n := by
  -- Invalid numbers would become the zero character.
  unfold Char.ofNat
  rw [dif_pos valid]
  rfl

/-- An unfinished character that becomes a character, and no plain one, with every continuation it
allows. -/
structure Unfinished.Sound (u : Unfinished) : Prop where
  least : 0x80 ≤ u.least.toNat
  greatest : u.greatest.toNat ≤ 0xBF
  /-- The least number it can become is beyond the plain ones. -/
  beyond : 0x80 ≤ (u.value * 64 + (u.least.toNat - 0x80)) * 64 ^ u.later
  /-- The numbers it can become lie on one side of the surrogates and within the code space. -/
  character : (u.value * 64 + (u.greatest.toNat - 0x80) + 1) * 64 ^ u.later ≤ 0xD800 ∨
    0xE000 ≤ (u.value * 64 + (u.least.toNat - 0x80)) * 64 ^ u.later ∧
      (u.value * 64 + (u.greatest.toNat - 0x80) + 1) * 64 ^ u.later ≤ 0x110000

/-- A continuation leaves an unfinished character sound. -/
theorem Unfinished.Sound.further {later : Nat} {least greatest : UInt8} {value : Nat} {b : UInt8}
    (sound : Sound ⟨later + 1, least, greatest, value⟩) (low : least.toNat ≤ b.toNat)
    (high : b.toNat ≤ greatest.toNat) :
    Sound ⟨later, 0x80, 0xBF, value * 64 + (b.toNat - 0x80)⟩ := by
  obtain ⟨atLeast, atMost, beyond, character⟩ := sound
  simp only at atLeast atMost beyond character
  -- With the next six bits open, the range shrinks to those numbers that begin with the bits read.
  have above : (value * 64 + (least.toNat - 0x80)) * 64 ^ (later + 1)
      ≤ (value * 64 + (b.toNat - 0x80)) * 64 ^ (later + 1) :=
    Nat.mul_le_mul_right _ (by omega)
  have below : (value * 64 + (b.toNat - 0x80) + 1) * 64 ^ (later + 1)
      ≤ (value * 64 + (greatest.toNat - 0x80) + 1) * 64 ^ (later + 1) :=
    Nat.mul_le_mul_right _ (by omega)
  have first : ((value * 64 + (b.toNat - 0x80)) * 64 + 0) * 64 ^ later
      = (value * 64 + (b.toNat - 0x80)) * 64 ^ (later + 1) := by
    rw [Nat.add_zero, Nat.mul_assoc, ← Nat.pow_succ']
  have last : ((value * 64 + (b.toNat - 0x80)) * 64 + 63 + 1) * 64 ^ later
      = (value * 64 + (b.toNat - 0x80) + 1) * 64 ^ (later + 1) := by
    have bits : (value * 64 + (b.toNat - 0x80)) * 64 + 63 + 1
        = (value * 64 + (b.toNat - 0x80) + 1) * 64 := by omega
    rw [bits, Nat.mul_assoc, ← Nat.pow_succ']
  refine ⟨Nat.le_refl _, Nat.le_refl _, ?_, ?_⟩
  · simp only [UInt8.reduceToNat, Nat.reduceSub, first]
    omega
  · simp only [UInt8.reduceToNat, Nat.reduceSub, first, last]
    omega

/-- The last continuation makes a character that is not plain. -/
theorem Unfinished.Sound.finished {least greatest : UInt8} {value : Nat} {b : UInt8}
    (sound : Sound ⟨0, least, greatest, value⟩) (low : least.toNat ≤ b.toNat)
    (high : b.toNat ≤ greatest.toNat) :
    0x80 ≤ (Char.ofNat (value * 64 + (b.toNat - 0x80))).toNat := by
  obtain ⟨_, _, beyond, character⟩ := sound
  -- All that is left to come is one continuation, so that the bounds are those of the value itself.
  simp only [Nat.pow_zero, Nat.mul_one] at beyond character
  -- The value is in the code space, and no surrogate.
  have valid : (value * 64 + (b.toNat - 0x80)).isValidChar := by
    unfold Nat.isValidChar
    omega
  rw [toNat_ofNat_of_valid valid]
  omega

/-- Whatever is unfinished is sound. -/
def Sound (begun : Option Unfinished) : Prop :=
  ∀ u, begun = some u → u.Sound

/-- Before the first byte nothing is unfinished. -/
theorem sound_none : Sound none := by
  -- There is no unfinished character to be sound.
  intro u same
  cases same

/-- A plain byte is a character of its own. -/
theorem Start.ofByte_plain {b : UInt8} (plain : b.toNat < 0x80) :
    Start.ofByte b = .whole (Char.ofNat b.toNat) := by
  -- The test for plain bytes comes first.
  simp only [Start.ofByte, if_pos plain]

/-- Any other byte opens a longer character, or none begins with it. -/
theorem Start.ofByte_other {b : UInt8} (other : 0x80 ≤ b.toNat) :
    (∃ u : Unfinished, u.Sound ∧ Start.ofByte b = .opening u) ∨ Start.ofByte b = .malformed := by
  by_cases two : 0xC2 ≤ b.toNat ∧ b.toNat < 0xE0
  · refine .inl ⟨_, ⟨?_, ?_, ?_, ?_⟩, ofByte_two two.1 two.2⟩
    all_goals simp only [UInt8.reduceToNat, Nat.pow_zero]
    all_goals omega
  by_cases three : 0xE0 ≤ b.toNat ∧ b.toNat < 0xF0
  · -- Both bounds of the next byte depend on the lead byte.
    refine .inl ⟨_, ⟨?_, ?_, ?_, ?_⟩, ofByte_three three.1 three.2⟩
    all_goals simp only [Nat.pow_one, apply_ite UInt8.toNat, UInt8.reduceToNat]
    all_goals grind
  by_cases four : 0xF0 ≤ b.toNat ∧ b.toNat ≤ 0xF4
  · refine .inl ⟨_, ⟨?_, ?_, ?_, ?_⟩, ofByte_four four.1 four.2⟩
    all_goals simp only [Nat.reducePow, apply_ite UInt8.toNat, UInt8.reduceToNat]
    all_goals grind
  · -- What is left are continuations, shorter forms written longer and what lies past the code space.
    right
    simp only [Start.ofByte]
    rw [if_neg (by omega)]
    by_cases short : b.toNat < 0xC2
    · rw [if_pos short]
    · rw [if_neg short, if_neg (by omega), if_neg (by omega), if_neg (by omega), if_neg (by omega),
        if_neg (by omega), if_neg (by omega), if_neg (by omega)]

/-- A byte that does not go on with an unfinished character makes one malformed stretch of that, and
begins anew. -/
theorem decodeFrom_outside {u : Unfinished} {b : UInt8} (outside : ¬(u.least ≤ b ∧ b ≤ u.greatest))
    (read : Text) (rest : Bytes) :
    decodeFrom (some u) read (b :: rest) = decodeFrom none (replacement :: read) (b :: rest) := by
  -- Both sides are opened: the left one falls back on a fresh start.
  rw [decodeFrom, decodeFrom]
  exact if_neg outside

/-- A plain byte ends whatever is unfinished, and is read as itself. -/
theorem decodeFrom_plain {begun : Option Unfinished} {b : UInt8} (sound : Sound begun)
    (plain : b.toNat < 0x80) (read : Text) (rest : Bytes) :
    decodeFrom begun read (b :: rest) =
      decodeFrom none
        (Char.ofNat b.toNat :: if begun.isSome then replacement :: read else read) rest := by
  have anew : ∀ read : Text,
      decodeFrom none read (b :: rest) = decodeFrom none (Char.ofNat b.toNat :: read) rest := by
    intro read
    rw [decodeFrom]
    simp only [Start.ofByte_plain plain]
  cases begun with
  | none => exact anew read
  | some u =>
    -- No unfinished character goes on with a plain byte.
    have outside : ¬(u.least ≤ b ∧ b ≤ u.greatest) := by
      rintro ⟨least, _⟩
      have := (sound u rfl).least
      have := UInt8.le_iff_toNat_le.mp least
      omega
    exact (decodeFrom_outside outside read rest).trans (anew _)

/-- A byte that is not plain, where nothing is unfinished, is malformed or opens a character. -/
theorem decodeFrom_start {b : UInt8} (other : 0x80 ≤ b.toNat) :
    ∃ made next, Sound next ∧ (∀ c ∈ made, 0x80 ≤ c.toNat) ∧ (next = none → made ≠ []) ∧
      ∀ read rest, decodeFrom none read (b :: rest) = decodeFrom next (made.reverse ++ read) rest := by
  -- It opens a character, which is then unfinished, or it is malformed and replaced at once.
  rcases Start.ofByte_other other with ⟨u, isSound, opens⟩ | malformed
  · have sound : Sound (some u) := fun _ same => Option.some.inj same ▸ isSound
    refine ⟨[], some u, sound, by simp, by simp, fun read rest => ?_⟩
    rw [decodeFrom]
    simp only [opens, List.reverse_nil, List.nil_append]
  · have far : 0x80 ≤ replacement.toNat := by decide
    refine ⟨[replacement], none, sound_none, by simpa using far, by simp, fun read rest => ?_⟩
    rw [decodeFrom]
    simp only [malformed, List.reverse_singleton, List.singleton_append]

/-- Any other byte brings characters that are not plain, or leaves one unfinished. -/
theorem decodeFrom_other {begun : Option Unfinished} {b : UInt8} (sound : Sound begun)
    (other : 0x80 ≤ b.toNat) :
    ∃ made next, Sound next ∧ (∀ c ∈ made, 0x80 ≤ c.toNat) ∧ (next = none → made ≠ []) ∧
      ∀ read rest, decodeFrom begun read (b :: rest) = decodeFrom next (made.reverse ++ read) rest := by
  cases begun with
  | none => exact decodeFrom_start other
  | some u =>
    have uSound := sound u rfl
    -- The byte goes on with the character, or ends it before its time.
    by_cases inside : u.least.toNat ≤ b.toNat ∧ b.toNat ≤ u.greatest.toNat
    · obtain ⟨later, least, greatest, value⟩ := u
      cases later with
      | zero =>
        have far := uSound.finished inside.1 inside.2
        exact ⟨[Char.ofNat (value * 64 + (b.toNat - 0x80))], none, sound_none, by simpa using far,
          by simp, fun read rest => decodeFrom_continue read rest inside.1 inside.2⟩
      | succ later =>
        have further : Sound (some ⟨later, 0x80, 0xBF, value * 64 + (b.toNat - 0x80)⟩) :=
          fun _ same => Option.some.inj same ▸ uSound.further inside.1 inside.2
        exact ⟨[], _, further, by simp, by simp,
          fun read rest => decodeFrom_continue read rest inside.1 inside.2⟩
    · -- A stretch that breaks off is replaced, and the byte is then a start.
      have outside : ¬(u.least ≤ b ∧ b ≤ u.greatest) := by
        rwa [UInt8.le_iff_toNat_le, UInt8.le_iff_toNat_le]
      obtain ⟨made, next, isSound, far, someMade, same⟩ := decodeFrom_start other
      have malformed : 0x80 ≤ replacement.toNat := by decide
      refine ⟨replacement :: made, next, isSound, List.forall_mem_cons.mpr ⟨malformed, far⟩, by simp,
        fun read rest => ?_⟩
      rw [decodeFrom_outside outside, same, List.reverse_cons, List.append_assoc,
        List.singleton_append]

/-- Characters at hand stay in front of all that is read later. -/
theorem decodeFrom_read {begun : Option Unfinished} (sound : Sound begun) (read : Text)
    (bytes : Bytes) :
    decodeFrom begun read bytes = read.reverse ++ decodeFrom begun [] bytes := by
  -- By induction on the bytes, with what is read and what has begun left open.
  induction bytes generalizing begun read with
  | nil => cases begun <;> simp [decodeFrom]
  | cons b rest ih =>
    -- A plain byte ends whatever has begun, any other adds what it makes.
    by_cases plain : b.toNat < 0x80
    · rw [decodeFrom_plain sound plain, decodeFrom_plain sound plain, ih sound_none,
        ih sound_none (_ :: if begun.isSome then [replacement] else [])]
      cases begun <;> simp
    · obtain ⟨made, next, isSound, _, _, same⟩ := decodeFrom_other sound (by omega : 0x80 ≤ b.toNat)
      rw [same, same, ih isSound, ih isSound (made.reverse ++ [])]
      simp

/-- A plain byte cuts the reading in two. -/
theorem decodeFrom_append {begun : Option Unfinished} {c : UInt8} (sound : Sound begun)
    (plain : c.toNat < 0x80) (front back : Bytes) :
    decodeFrom begun [] (front ++ c :: back) =
      decodeFrom begun [] front ++ Char.ofNat c.toNat :: decode back := by
  -- By induction on the part in front: the plain byte is met with something begun or nothing.
  induction front generalizing begun with
  | nil =>
    rw [List.nil_append, decodeFrom_plain sound plain, decodeFrom_read sound_none]
    cases begun <;> simp [decodeFrom, decode]
  | cons b front ih =>
    rw [List.cons_append]
    by_cases isPlain : b.toNat < 0x80
    · rw [decodeFrom_plain sound isPlain, decodeFrom_plain sound isPlain, decodeFrom_read sound_none,
        decodeFrom_read sound_none (_ :: _) front, ih sound_none, List.append_assoc]
    · obtain ⟨made, next, isSound, _, _, same⟩ :=
        decodeFrom_other sound (by omega : 0x80 ≤ b.toNat)
      rw [same, same, decodeFrom_read isSound, decodeFrom_read isSound _ front, ih isSound,
        List.append_assoc]

/-- A plain character is read from its byte and from nothing else. -/
theorem mem_of_mem_decodeFrom {begun : Option Unfinished} {c : Char} {bytes : Bytes}
    (sound : Sound begun) (plain : c.toNat < 0x80) (member : c ∈ decodeFrom begun [] bytes) :
    UInt8.ofNat c.toNat ∈ bytes := by
  have noReplacement : c ≠ replacement := by
    rintro rfl
    exact absurd plain (by decide)
  induction bytes generalizing begun with
  | nil =>
    -- All that can be read of no bytes is that a character was cut off.
    cases begun with
    | none => simp [decodeFrom] at member
    | some u => exact absurd (by simpa [decodeFrom] using member) noReplacement
  | cons b rest ih =>
    by_cases isPlain : b.toNat < 0x80
    · rw [decodeFrom_plain sound isPlain, decodeFrom_read sound_none, List.reverse_cons] at member
      rcases List.mem_append.mp member with now | later
      · rcases List.mem_append.mp now with before | own
        · cases begun with
          | none => simp at before
          | some u => exact absurd (by simpa using before) noReplacement
        · -- The character is the byte.
          have number : c.toNat = b.toNat := by
            rw [List.mem_singleton.mp own, toNat_ofNat_of_valid (.inl (by omega))]
          rw [number, UInt8.ofNat_toNat]
          exact List.mem_cons_self
      · exact List.mem_cons_of_mem _ (ih sound_none later)
    · obtain ⟨made, next, isSound, far, _, same⟩ :=
        decodeFrom_other sound (by omega : 0x80 ≤ b.toNat)
      rw [same, decodeFrom_read isSound] at member
      rcases List.mem_append.mp member with now | later
      · have := far c (by simpa using now)
        omega
      · exact List.mem_cons_of_mem _ (ih isSound later)

/-- Some bytes, or an unfinished character, are read as some text. -/
theorem decodeFrom_ne_nil {begun : Option Unfinished} {bytes : Bytes} (sound : Sound begun)
    (some : begun = none → bytes ≠ []) : decodeFrom begun [] bytes ≠ [] := by
  -- By induction on the bytes: what has begun is replaced at the end at the latest.
  induction bytes generalizing begun with
  | nil =>
    cases begun with
    | none => exact absurd rfl (some rfl)
    | some u => simp [decodeFrom]
  | cons b rest ih =>
    -- A byte makes a character or begins one, so that something is read in either case.
    by_cases isPlain : b.toNat < 0x80
    · rw [decodeFrom_plain sound isPlain, decodeFrom_read sound_none]
      simp
    · obtain ⟨made, next, isSound, _, someMade, same⟩ :=
        decodeFrom_other sound (by omega : 0x80 ≤ b.toNat)
      rw [same, decodeFrom_read isSound]
      cases next with
      | none => simp [someMade rfl]
      | some u => simp [ih isSound]

end AmigaRemote.Utf8
