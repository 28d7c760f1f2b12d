import AmigaRemote.Proofs.Text.Decimal
import AmigaRemote.Proofs.Text.Utf8Plain
import AmigaRemote.Proofs.Wire.Framing
import AmigaRemote.Proofs.Wire.Lines

/-! What the protocol looks for in a line is plain, and plain text is read from its own bytes alone,
whatever the encoding and whatever stands around it. So every decision is one about bytes. -/

namespace AmigaRemote

/-- The bytes of a plain text. -/
def Text.plainBytes (text : Text) : Bytes :=
  text.map fun c => UInt8.ofNat c.toNat

/-- The sentinel is plain. -/
theorem Line.sentinel_plain : ∀ c ∈ sentinel, c.toNat < 0x80 := by
  simp [sentinel]

/-- The end line is plain. -/
theorem Chunk.endLine_plain : ∀ c ∈ endLine, c.toNat < 0x80 := by
  simp [endLine]

/-- The beginning of a header is plain. -/
theorem Chunk.lead_plain : ∀ c ∈ lead, c.toNat < 0x80 := by
  simp [lead]

namespace Encoding

variable {encoding : Encoding} {bytes : Bytes} {text rest : Text}

/-- No bytes are no text. -/
@[simp] theorem decode_nil : encoding.decode [] = [] := by
  -- In both encodings the reading starts with nothing at hand.
  cases encoding <;> rfl

/-- Some bytes are some text. -/
theorem decode_ne_nil (some : bytes ≠ []) : encoding.decode bytes ≠ [] := by
  -- In UTF-8 malformed bytes are replaced, and so are read as something as well.
  cases encoding with
  | latin1 => simpa [decode] using some
  | utf8 => exact Utf8.decodeFrom_ne_nil Utf8.sound_none fun _ => some

/-- A plain byte is read as itself, apart from what stands before and behind it. -/
theorem decode_append {b : UInt8} (plain : b.toNat < 0x80) (front back : Bytes) :
    encoding.decode (front ++ b :: back) =
      encoding.decode front ++ Char.ofNat b.toNat :: encoding.decode back := by
  -- In ISO-8859-1 each byte stands for itself; in UTF-8 a plain byte ends what came before.
  cases encoding with
  | latin1 => simp [decode]
  | utf8 => exact Utf8.decodeFrom_append Utf8.sound_none plain front back

/-- A plain character is read from its byte and from nothing else. -/
theorem mem_of_mem_decode {c : Char} (plain : c.toNat < 0x80)
    (member : c ∈ encoding.decode bytes) : UInt8.ofNat c.toNat ∈ bytes := by
  cases encoding with
  | latin1 =>
    obtain ⟨b, inBytes, rfl⟩ := List.mem_map.mp member
    -- Each byte is the number of its character.
    rw [Utf8.toNat_ofNat_of_valid (.inl (Nat.lt_trans b.toNat_lt (by decide))), UInt8.ofNat_toNat]
    exact inBytes
  | utf8 => exact Utf8.mem_of_mem_decodeFrom Utf8.sound_none plain member

/-- A text begins with a plain character exactly if its bytes begin with the byte of it. -/
theorem decode_eq_cons {c : Char} (plain : c.toNat < 0x80) :
    encoding.decode bytes = c :: rest ↔
      ∃ back, bytes = UInt8.ofNat c.toNat :: back ∧ encoding.decode back = rest := by
  have number : (UInt8.ofNat c.toNat).toNat = c.toNat :=
    UInt8.toNat_ofNat_of_lt' (by change _ < 256; omega)
  have small : (UInt8.ofNat c.toNat).toNat < 0x80 := by omega
  have cut := fun front back => @decode_append encoding _ small front back
  rw [number, Char.ofNat_toNat] at cut
  constructor
  · intro decoded
    -- The byte occurs, and what stands before it cannot be read as the character.
    have occurs : UInt8.ofNat c.toNat ∈ bytes := by
      refine @mem_of_mem_decode encoding bytes c plain ?_
      rw [decoded]
      exact List.mem_cons_self
    obtain ⟨front, back, rfl, absent⟩ := List.eq_append_cons_of_mem occurs
    rw [cut] at decoded
    cases before : encoding.decode front with
    | nil =>
      have nothing : front = [] := Decidable.byContradiction fun some => decode_ne_nil some before
      subst nothing
      rw [before] at decoded
      exact ⟨back, rfl, (List.cons.inj decoded).2⟩
    | cons d later =>
      rw [before] at decoded
      have first : d = c := (List.cons.inj decoded).1
      refine absurd (@mem_of_mem_decode encoding front c plain ?_) absent
      rw [before, first]
      exact List.mem_cons_self
  · rintro ⟨back, rfl, rfl⟩
    exact (cut [] back).trans (by rw [decode_nil]; rfl)

/-- A text begins with a plain one exactly if its bytes begin with the bytes of that. -/
theorem decode_eq_append (plain : ∀ c ∈ text, c.toNat < 0x80) :
    encoding.decode bytes = text ++ rest ↔
      ∃ back, bytes = text.plainBytes ++ back ∧ encoding.decode back = rest := by
  -- By induction on the text, character by character.
  induction text generalizing bytes with
  | nil => exact ⟨fun decoded => ⟨bytes, rfl, decoded⟩, fun ⟨_, same, decoded⟩ => same ▸ decoded⟩
  | cons c text ih =>
    rw [List.forall_mem_cons] at plain
    rw [List.cons_append, decode_eq_cons plain.1]
    constructor
    · rintro ⟨back, rfl, decoded⟩
      obtain ⟨last, rfl, behind⟩ := (ih plain.2).mp decoded
      exact ⟨last, rfl, behind⟩
    · rintro ⟨last, rfl, decoded⟩
      exact ⟨_, rfl, (ih plain.2).mpr ⟨last, rfl, decoded⟩⟩

/-- A text is a plain one exactly if its bytes are the bytes of that. -/
theorem decode_eq_plain (plain : ∀ c ∈ text, c.toNat < 0x80) :
    encoding.decode bytes = text ↔ bytes = text.plainBytes := by
  have whole := @decode_eq_append encoding bytes text [] plain
  rw [List.append_nil] at whole
  rw [whole]
  constructor
  · rintro ⟨back, rfl, decoded⟩
    -- Nothing can be left that is read as no text.
    have nothing : back = [] := Decidable.byContradiction fun some => decode_ne_nil some decoded
    rw [nothing, List.append_nil]
  · rintro rfl
    exact ⟨[], (List.append_nil _).symm, decode_nil⟩

/-- A line is the sentinel exactly if it is the byte of a dot. -/
theorem decode_eq_sentinel :
    encoding.decode bytes = Line.sentinel ↔ bytes = Line.sentinel.plainBytes :=
  -- The dot is plain.
  decode_eq_plain Line.sentinel_plain

/-- A line ends a transfer exactly if it is the bytes of the end line. -/
theorem decode_eq_endLine :
    encoding.decode bytes = Chunk.endLine ↔ bytes = Chunk.endLine.plainBytes :=
  -- Its letters are plain.
  decode_eq_plain Chunk.endLine_plain

end Encoding

/-- The bytes of a status line: the word on its own, or the word, a space and the bytes of the
info. -/
inductive StatusLine (encoding : Encoding) (status : Status) : Text → Bytes → Prop where
  | bare : StatusLine encoding status [] status.word.plainBytes
  | withInfo (info : Bytes) :
    StatusLine encoding status (encoding.decode info) (status.word.plainBytes ++ 32 :: info)

/-- The bytes of a chunk header: the lead and the number of bytes that follow. -/
def HeaderLine (length : Nat) (line : Bytes) : Prop :=
  ∃ number, Decimal.Spells length number ∧ line = (Chunk.lead ++ number).plainBytes

/-- A line has a verdict exactly if its bytes say so. -/
theorem parseLine_decode {encoding : Encoding} {status : Status} {info : Text} {line : Bytes} :
    Status.parseLine (encoding.decode line) = .ok (status, info) ↔
      StatusLine encoding status info line := by
  -- The word and the space behind it are plain, so that they can be told from the bytes.
  have spaced : ∀ c ∈ status.word ++ [' '], c.toNat < 0x80 := by
    cases status <;> simp [Status.word]
  have behind : ∀ back : Bytes, status.word.plainBytes ++ 32 :: back
      = (status.word ++ [' ']).plainBytes ++ back := by
    intro back
    cases status <;> rfl
  constructor
  · intro parsed
    -- The verdict is bare, or information stands behind the space.
    rcases Status.eq_of_parseLine parsed with ⟨bare, rfl⟩ | withInfo
    · rw [Encoding.decode_eq_plain status.word_plain] at bare
      exact bare ▸ .bare
    · rw [← List.singleton_append, ← List.append_assoc, Encoding.decode_eq_append spaced] at withInfo
      obtain ⟨back, rfl, rfl⟩ := withInfo
      rw [← behind]
      exact .withInfo back
  -- The layout is one of the two, and each of them parses.
  · intro isStatus
    cases isStatus with
    | bare =>
      rw [(Encoding.decode_eq_plain status.word_plain).mpr rfl]
      cases status <;> rfl
    | withInfo back =>
      have decoded := (@Encoding.decode_eq_append encoding _ _ _ spaced).mpr
        ⟨back, behind back, rfl⟩
      rw [decoded, List.append_assoc, List.singleton_append]
      exact Status.parseLine_spaced status _

/-- A line announces a chunk exactly if it is the lead and a number that fits into sixty-four
bits. -/
theorem Chunk.parseHeader_eq_some {line : Text} {length : Nat} :
    parseHeader line = .ok (some length) ↔
      ∃ number, line = lead ++ number ∧ Decimal.Spells length number ∧
        length ≤ UInt64.size - 1 := by
  unfold parseHeader
  -- A line that does not begin with the lead announces nothing.
  cases follows : line.after? lead with
  | none =>
    refine ⟨nofun, ?_⟩
    rintro ⟨number, rfl, _⟩
    rw [Text.after?_append] at follows
    cases follows
  | some number =>
    have shape := Text.eq_append_of_after? follows
    subst shape
    constructor
    · intro announced
      -- Behind the lead there is a number that fits, or the header is malformed.
      cases value : Decimal.nat? (UInt64.size - 1) number with
      | none =>
        simp only [value] at announced
        cases announced
      | some n =>
        simp only [value] at announced
        cases announced
        exact ⟨number, rfl, Decimal.nat?_eq_some.mp value⟩
    · rintro ⟨other, same, spells⟩
      rw [← List.append_cancel_left same] at spells
      simp only [Decimal.nat?_eq_some.mpr spells]

/-- A line is no chunk header exactly if it does not begin with the lead. -/
theorem Chunk.parseHeader_eq_none {line : Text} :
    parseHeader line = .ok none ↔ line.after? lead = none := by
  unfold parseHeader
  cases line.after? lead with
  | none => simp
  | some number =>
    -- A line that begins with the lead is a header or a failure.
    refine ⟨fun other => ?_, nofun⟩
    cases value : Decimal.nat? (UInt64.size - 1) number
    all_goals
      simp only [value] at other
      cases other

/-- A line announces a chunk exactly if its bytes are a header. -/
theorem parseHeader_decode {encoding : Encoding} {length : Nat} {line : Bytes} :
    Chunk.parseHeader (encoding.decode line) = .ok (some length) ↔
      HeaderLine length line ∧ length ≤ UInt64.size - 1 := by
  -- The lead and the number are plain, so that the text of the line and its bytes determine each
  -- other.
  have plain : ∀ {number}, Decimal.Spells length number →
      ∀ c ∈ Chunk.lead ++ number, c.toNat < 0x80 := fun spells =>
    List.forall_mem_append.mpr ⟨Chunk.lead_plain, spells.plain⟩
  rw [Chunk.parseHeader_eq_some]
  constructor
  · rintro ⟨number, decoded, spells, fits⟩
    exact ⟨⟨number, spells, (Encoding.decode_eq_plain (plain spells)).mp decoded⟩, fits⟩
  · rintro ⟨⟨number, spells, same⟩, fits⟩
    exact ⟨number, (Encoding.decode_eq_plain (plain spells)).mpr same, spells, fits⟩

/-- A line is no chunk header exactly if its bytes do not begin like one. -/
theorem parseHeader_decode_none {encoding : Encoding} {line : Bytes} :
    Chunk.parseHeader (encoding.decode line) = .ok none ↔ ¬Chunk.lead.plainBytes <+: line := by
  rw [Chunk.parseHeader_eq_none]
  constructor
  -- The lead is plain, so that bytes that begin with it are read as a text that does.
  · rintro none ⟨back, rfl⟩
    have decoded := (@Encoding.decode_eq_append encoding _ _ _ Chunk.lead_plain).mpr ⟨back, rfl, rfl⟩
    rw [decoded, Text.after?_append] at none
    cases none
  · intro other
    cases follows : (encoding.decode line).after? Chunk.lead with
    | none => rfl
    | some number =>
      obtain ⟨back, same, _⟩ := (Encoding.decode_eq_append Chunk.lead_plain).mp
        (Text.eq_append_of_after? follows)
      exact absurd ⟨back, same.symm⟩ other

end AmigaRemote
