import AmigaRemote.Proofs.Text.Utf8Form
import AmigaRemote.Proofs.Wire.Decoding

/-! What an encoding keeps: every text it can write, every byte string it can have written, and the
borders of lines. -/

namespace AmigaRemote.Encoding

/-- Whether an encoding has bytes for a character. -/
def Covers : Encoding → Char → Prop
  | latin1, c => c.toNat ≤ 0xFF
  | utf8, _ => True

/-- Whether a byte string can be the bytes of a text. -/
def Admits : Encoding → Bytes → Prop
  | latin1, _ => True
  | utf8, bytes => Utf8.WellFormed bytes

/-- An encoding that loses nothing it can keep. -/
structure Faithful (encoding : Encoding) : Prop where
  /-- What was written is read back as it was. -/
  readsBack : ∀ text bytes, encoding.encode text = .ok bytes → encoding.decode bytes = text
  /-- A text is written exactly if each of its characters has bytes. -/
  written : ∀ text, (∃ bytes, encoding.encode text = .ok bytes) ↔ ∀ c ∈ text, encoding.Covers c
  /-- Otherwise its first character without bytes is reported, and nothing else ever is. -/
  refused : ∀ text e, encoding.encode text = .error e ↔
    ∃ front c back, text = front ++ c :: back ∧ (∀ d ∈ front, encoding.Covers d) ∧
      ¬encoding.Covers c ∧ e = .unencodable c
  /-- What was read is written back as it was exactly if it can have been written. -/
  writtenBack : ∀ bytes, encoding.encode (encoding.decode bytes) = .ok bytes ↔
    encoding.Admits bytes
  /-- A plain byte is read apart from what stands before and behind it. -/
  apart : ∀ front b back, b.toNat < 0x80 →
    encoding.decode (front ++ [b] ++ back) =
      encoding.decode front ++ encoding.decode [b] ++ encoding.decode back
  /-- So lines are read one by one as they are read together. -/
  lines : ∀ lines : List Bytes,
    encoding.decode ([Line.feed].intercalate lines) =
      ['\n'].intercalate (lines.map encoding.decode)

/-- In ISO-8859-1 the first character without a byte is reported. -/
theorem encode_latin1_eq_error {text : Text} {e : WireError} :
    latin1.encode text = .error e ↔
      ∃ front c back, text = front ++ c :: back ∧ (∀ d ∈ front, d.toNat ≤ 0xFF) ∧
        ¬c.toNat ≤ 0xFF ∧ e = .unencodable c := by
  -- The search gives the first character beyond the range, with what stands before it.
  have first : ∀ c, text.find? (fun c => 0xFF < c.toNat) = some c ↔
      ∃ front back, text = front ++ c :: back ∧ (∀ d ∈ front, d.toNat ≤ 0xFF) ∧
        ¬c.toNat ≤ 0xFF := by
    intro c
    rw [List.find?_eq_some_iff_append]
    simp only [decide_eq_true_eq, Bool.not_eq_true', decide_eq_false_iff_not, Nat.not_lt, Nat.not_le]
    constructor
    · rintro ⟨beyond, front, back, same, within⟩
      exact ⟨front, back, same, within, beyond⟩
    · rintro ⟨front, back, same, within, beyond⟩
      exact ⟨beyond, front, back, same, within⟩
  simp only [encode]
  -- An error comes of that search alone.
  constructor
  · intro failed
    split at failed
    · rename_i c found
      cases failed
      obtain ⟨front, back, same, within, beyond⟩ := (first c).mp found
      exact ⟨front, c, back, same, within, beyond, rfl⟩
    · cases failed
  · rintro ⟨front, c, back, same, within, beyond, rfl⟩
    rw [(first c).mpr ⟨front, back, same, within, beyond⟩]

/-- In ISO-8859-1 all bytes are written back as they were read. -/
theorem encode_decode_latin1 (bytes : Bytes) :
    latin1.encode (latin1.decode bytes) = .ok bytes := by
  have number : ∀ b : UInt8, (Char.ofNat b.toNat).toNat = b.toNat := by
    intro b
    exact Utf8.toNat_ofNat_of_valid (.inl (Nat.lt_trans b.toNat_lt (by decide)))
  rw [encode_latin1_eq_ok]
  refine ⟨?_, ?_⟩
  · -- The character of a byte is one of the first 256.
    intro c member
    obtain ⟨b, _, rfl⟩ := List.mem_map.mp member
    rw [number]
    exact Nat.le_of_lt_succ b.toNat_lt
  · have same : ∀ b : UInt8, UInt8.ofNat (Char.ofNat b.toNat).toNat = b := by
      intro b
      rw [number, UInt8.ofNat_toNat]
    simp [decode, Function.comp_def, same]

/-- Lines are read one by one as they are read together. -/
theorem decode_intercalate (encoding : Encoding) (lines : List Bytes) :
    encoding.decode ([Line.feed].intercalate lines) =
      ['\n'].intercalate (lines.map encoding.decode) := by
  induction lines with
  | nil => exact decode_nil
  | cons line lines ih =>
    cases lines with
    | nil => simp
    | cons next lines =>
      -- A line end is plain, so the first line is read apart from the others.
      rw [List.map_cons, List.map_cons, List.intercalate_cons_cons, List.intercalate_cons_cons,
        List.append_assoc, List.singleton_append, decode_append (by decide), ih, List.append_assoc]
      rfl

/-- Both encodings are faithful: ISO-8859-1 to the first 256 characters and to all bytes, UTF-8 to
all characters and to what is well formed. -/
theorem faithful (encoding : Encoding) : encoding.Faithful where
  readsBack text bytes := decode_of_encode
  written text := by
    rw [exists_encode_eq_ok]
    cases encoding with
    | latin1 => exact ⟨fun within => within rfl, fun within _ => within⟩
    | utf8 => exact ⟨fun _ _ _ => trivial, fun _ => nofun⟩
  refused text e := by
    cases encoding with
    | latin1 => exact encode_latin1_eq_error
    | utf8 =>
      -- Every character has bytes, so nothing is ever refused.
      refine ⟨nofun, ?_⟩
      rintro ⟨_, _, _, _, _, uncovered, _⟩
      exact absurd trivial uncovered
  writtenBack bytes := by
    cases encoding with
    | latin1 => exact ⟨fun _ => trivial, fun _ => encode_decode_latin1 bytes⟩
    | utf8 =>
      change Except.ok (Utf8.encode (Utf8.decode bytes)) = .ok bytes ↔ _
      rw [Except.ok.injEq]
      exact Utf8.encode_decode
  apart front b back plain := by
    -- Between nothing the byte is read as it is anywhere else.
    have alone : encoding.decode [b] = [Char.ofNat b.toNat] := by
      have cut := @decode_append encoding b plain [] []
      rwa [decode_nil] at cut
    rw [alone, List.append_assoc, List.singleton_append, decode_append plain, List.append_assoc,
      List.singleton_append]
  lines := decode_intercalate encoding

end AmigaRemote.Encoding
