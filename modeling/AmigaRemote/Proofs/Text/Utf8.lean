import AmigaRemote.Text.Utf8

/-! What was written as UTF-8 reads back as it was, and only plain characters use plain bytes. -/

namespace AmigaRemote.Utf8

/-- A lead byte of two opens a character with any continuation. -/
theorem Start.ofByte_two {b : UInt8} (low : 0xC2 ≤ b.toNat) (high : b.toNat < 0xE0) :
    Start.ofByte b = .opening ⟨0, 0x80, 0xBF, b.toNat - 0xC0⟩ := by
  simp only [Start.ofByte]
  -- The lead bytes of one and of malformed stretches are below.
  rw [if_neg (by omega), if_neg (by omega), if_pos high]

/-- A lead byte of three narrows its continuation where a shorter character or a surrogate
would arise. -/
theorem Start.ofByte_three {b : UInt8} (low : 0xE0 ≤ b.toNat) (high : b.toNat < 0xF0) :
    Start.ofByte b = .opening ⟨1, if b.toNat = 0xE0 then 0xA0 else 0x80,
      if b.toNat = 0xED then 0x9F else 0xBF, b.toNat - 0xE0⟩ := by
  simp only [Start.ofByte]
  rw [if_neg (by omega), if_neg (by omega), if_neg (by omega)]
  -- The two special lead bytes differ, so each narrows one bound alone.
  by_cases least : b.toNat = 0xE0
  · simp [least]
  · by_cases surrogate : b.toNat = 0xED
    · simp [surrogate]
    · simp [least, surrogate, high]

/-- A lead byte of four narrows its continuation at both ends of the code space. -/
theorem Start.ofByte_four {b : UInt8} (low : 0xF0 ≤ b.toNat) (high : b.toNat ≤ 0xF4) :
    Start.ofByte b = .opening ⟨2, if b.toNat = 0xF0 then 0x90 else 0x80,
      if b.toNat = 0xF4 then 0x8F else 0xBF, b.toNat - 0xF0⟩ := by
  simp only [Start.ofByte]
  rw [if_neg (by omega), if_neg (by omega), if_neg (by omega), if_neg (by omega),
    if_neg (by omega), if_neg (by omega)]
  -- The first and the last lead byte of this kind are the two that narrow.
  by_cases least : b.toNat = 0xF0
  · simp [least]
  · by_cases greatest : b.toNat = 0xF4
    · simp [greatest]
    · simp [least, greatest, show b.toNat < 0xF4 by omega]

/-- A continuation within bounds is taken into the unfinished character. -/
theorem decodeFrom_continue {u : Unfinished} {b : UInt8} (read : Text) (rest : Bytes)
    (least : u.least.toNat ≤ b.toNat) (greatest : b.toNat ≤ u.greatest.toNat) :
    decodeFrom (some u) read (b :: rest) =
      match u.later with
      | 0 => decodeFrom none (Char.ofNat (u.value * 64 + (b.toNat - 0x80)) :: read) rest
      | later + 1 =>
        decodeFrom (some ⟨later, 0x80, 0xBF, u.value * 64 + (b.toNat - 0x80)⟩) read rest := by
  -- The bounds are those that the reader looks at.
  have inside : u.least ≤ b ∧ b ≤ u.greatest :=
    ⟨UInt8.le_iff_toNat_le.mpr least, UInt8.le_iff_toNat_le.mpr greatest⟩
  rw [decodeFrom]
  refine (if_pos inside).trans ?_
  cases u.later <;> rfl

/-- Where a character may begin, a lead byte opens one. -/
theorem decodeFrom_open {u : Unfinished} {b : UInt8} (read : Text) (rest : Bytes)
    (opens : Start.ofByte b = .opening u) :
    decodeFrom none read (b :: rest) = decodeFrom (some u) read rest := by
  -- Nothing is unfinished, so that the byte is taken as a start.
  rw [decodeFrom]
  simp only [opens]

/-- The byte that carries six bits of a character after its lead byte. -/
theorem toNat_tail (n : Nat) : (UInt8.ofNat (n % 0x40 + 0x80)).toNat = n % 64 + 0x80 :=
  -- A remainder by 64 and 128 together fit in a byte.
  UInt8.toNat_ofNat_of_lt' (by change _ < 256; omega)

/-- The last six bits finish a character. -/
theorem decodeFrom_last (value n : Nat) (read : Text) (rest : Bytes) :
    decodeFrom (some ⟨0, 0x80, 0xBF, value⟩) read (UInt8.ofNat (n % 0x40 + 0x80) :: rest) =
      decodeFrom none (Char.ofNat (value * 64 + n % 64) :: read) rest := by
  -- The byte is in the range that is open to it, and it is the last one.
  rw [decodeFrom_continue _ _ (by rw [toNat_tail]; exact Nat.le_add_left _ _)
    (by rw [toNat_tail]; change _ ≤ 0xBF; omega)]
  simp only [toNat_tail, Nat.add_sub_cancel]

/-- Six bits in between bring a character one byte nearer to its end. -/
theorem decodeFrom_further (later value n : Nat) (read : Text) (rest : Bytes) :
    decodeFrom (some ⟨later + 1, 0x80, 0xBF, value⟩) read
        (UInt8.ofNat (n % 0x40 + 0x80) :: rest) =
      decodeFrom (some ⟨later, 0x80, 0xBF, value * 64 + n % 64⟩) read rest := by
  -- As above, with more bytes to come.
  rw [decodeFrom_continue _ _ (by rw [toNat_tail]; exact Nat.le_add_left _ _)
    (by rw [toNat_tail]; change _ ≤ 0xBF; omega)]
  simp only [toNat_tail, Nat.add_sub_cancel]

/-- A number of at most eleven bits is read back from two bytes. -/
theorem decodeFrom_two {n : Nat} (low : 0x80 ≤ n) (high : n < 0x800) (read : Text)
    (rest : Bytes) :
    decodeFrom none read
        (UInt8.ofNat (n / 64 % 0x20 + 0xc0) :: UInt8.ofNat (n % 0x40 + 0x80) :: rest)
      = decodeFrom none (Char.ofNat n :: read) rest := by
  have lead : (UInt8.ofNat (n / 64 % 0x20 + 0xc0)).toNat = n / 64 + 0xc0 := by
    rw [UInt8.toNat_ofNat_of_lt' (by change _ < 256; omega)]
    omega
  rw [decodeFrom_open _ _ (Start.ofByte_two (by omega) (by omega)), decodeFrom_last, lead]
  -- The bits of both bytes together are the number.
  have number : (n / 64 + 0xc0 - 0xC0) * 64 + n % 64 = n := by omega
  rw [number]

/-- A number of at most sixteen bits that is a character is read back from three bytes. -/
theorem decodeFrom_three {n : Nat} (low : 0x800 ≤ n) (high : n < 0x10000)
    (valid : n < 0xD800 ∨ 0xDFFF < n) (read : Text) (rest : Bytes) :
    decodeFrom none read
        (UInt8.ofNat (n / 4096 % 0x10 + 0xe0) :: UInt8.ofNat (n / 64 % 0x40 + 0x80)
          :: UInt8.ofNat (n % 0x40 + 0x80) :: rest)
      = decodeFrom none (Char.ofNat n :: read) rest := by
  have lead : (UInt8.ofNat (n / 4096 % 0x10 + 0xe0)).toNat = n / 4096 + 0xe0 := by
    rw [UInt8.toNat_ofNat_of_lt' (by change _ < 256; omega)]
    omega
  -- The lead byte narrows the second one, so that no number is written longer than it has to be.
  rw [decodeFrom_open _ _ (Start.ofByte_three (by omega) (by omega)),
    decodeFrom_continue _ _
      (by simp only [lead, toNat_tail]; split <;> simp only [UInt8.reduceToNat] <;> omega)
      (by simp only [lead, toNat_tail]; split <;> simp only [UInt8.reduceToNat] <;> omega)]
  simp only [lead, toNat_tail]
  rw [decodeFrom_last]
  have number : ((n / 4096 + 0xe0 - 0xE0) * 64 + (n / 64 % 64 + 0x80 - 0x80)) * 64 + n % 64
      = n := by omega
  rw [number]

/-- Any greater number that is a character is read back from four bytes. -/
theorem decodeFrom_four {n : Nat} (low : 0x10000 ≤ n) (high : n < 0x110000) (read : Text)
    (rest : Bytes) :
    decodeFrom none read
        (UInt8.ofNat (n / 262144 % 0x08 + 0xf0) :: UInt8.ofNat (n / 4096 % 0x40 + 0x80)
          :: UInt8.ofNat (n / 64 % 0x40 + 0x80) :: UInt8.ofNat (n % 0x40 + 0x80) :: rest)
      = decodeFrom none (Char.ofNat n :: read) rest := by
  have lead : (UInt8.ofNat (n / 262144 % 0x08 + 0xf0)).toNat = n / 262144 + 0xf0 := by
    rw [UInt8.toNat_ofNat_of_lt' (by change _ < 256; omega)]
    omega
  -- Here the second byte is narrowed at both ends of the range.
  rw [decodeFrom_open _ _ (Start.ofByte_four (by omega) (by omega)),
    decodeFrom_continue _ _
      (by simp only [lead, toNat_tail]; split <;> simp only [UInt8.reduceToNat] <;> omega)
      (by simp only [lead, toNat_tail]; split <;> simp only [UInt8.reduceToNat] <;> omega)]
  simp only [lead, toNat_tail]
  rw [decodeFrom_further, decodeFrom_last]
  have number : (((n / 262144 + 0xf0 - 0xF0) * 64 + (n / 4096 % 64 + 0x80 - 0x80)) * 64
      + n / 64 % 64) * 64 + n % 64 = n := by omega
  rw [number]

/-- Every character is read back from the bytes it was written as. -/
theorem decodeFrom_encodeChar (c : Char) (read : Text) (rest : Bytes) :
    decodeFrom none read (String.utf8EncodeChar c ++ rest) = decodeFrom none (c :: read) rest := by
  have valid : c.toNat < 0xD800 ∨ 0xDFFF < c.toNat ∧ c.toNat < 0x110000 := c.valid
  have same : c.val.toNat = c.toNat := rfl
  unfold String.utf8EncodeChar
  simp only [same]
  -- The four lengths of a written character are the four ranges of its number.
  split
  · have byte : (UInt8.ofNat c.toNat).toNat = c.toNat :=
      UInt8.toNat_ofNat_of_lt' (by change _ < 256; omega)
    have whole : Start.ofByte (UInt8.ofNat c.toNat) = .whole c := by
      simp only [Start.ofByte, byte]
      rw [if_pos (by omega), Char.ofNat_toNat]
    rw [List.cons_append, List.nil_append, decodeFrom]
    simp only [whole]
  · split
    · have found := decodeFrom_two (n := c.toNat) (by omega) (by omega) read rest
      rw [Char.ofNat_toNat] at found
      exact found
    · split
      · have found := decodeFrom_three (n := c.toNat) (by omega) (by omega) (by omega) read rest
        rw [Char.ofNat_toNat] at found
        exact found
      · have found := decodeFrom_four (n := c.toNat) (by omega) (by omega) read rest
        rw [Char.ofNat_toNat] at found
        exact found

/-- Written characters are read back one after another. -/
theorem decodeFrom_encode (text read : Text) :
    decodeFrom none read (encode text) = read.reverse ++ text := by
  -- Every character read moves from the bytes to those at hand.
  induction text generalizing read with
  | nil => simp [encode, decodeFrom]
  | cons c text ih =>
    change decodeFrom none read (String.utf8EncodeChar c ++ encode text) = _
    rw [decodeFrom_encodeChar, ih]
    simp

/-- What was written is read back as it was. -/
theorem decode_encode (text : Text) : decode (encode text) = text :=
  -- Nothing is read before the text, and nothing stands behind it.
  decodeFrom_encode text []

/-- A plain byte of a written character is that character. -/
theorem encodeChar_plain {c : Char} {b : UInt8} (member : b ∈ String.utf8EncodeChar c)
    (plain : b.toNat < 0x80) : String.utf8EncodeChar c = [b] ∧ c.toNat = b.toNat := by
  have same : c.val.toNat = c.toNat := rfl
  unfold String.utf8EncodeChar at member ⊢
  simp only [same] at member ⊢
  split at member
  · rename_i small
    have alone : b = UInt8.ofNat c.toNat := by simpa using member
    rw [if_pos small, alone]
    exact ⟨rfl, (UInt8.toNat_ofNat_of_lt' (by change _ < 256; omega)).symm⟩
  -- Every byte of a longer form has its top bit set.
  · have top : ∀ m, 0x80 ≤ m → m < 256 → b ≠ UInt8.ofNat m := by
      intro m low high same
      rw [same, UInt8.toNat_ofNat_of_lt' high] at plain
      omega
    split at member
    · simp only [List.mem_cons, List.not_mem_nil, or_false] at member
      rcases member with first | second
      · exact absurd first (top _ (by omega) (by omega))
      · exact absurd second (top _ (by omega) (by omega))
    · split at member
      · simp only [List.mem_cons, List.not_mem_nil, or_false] at member
        rcases member with first | second | third
        · exact absurd first (top _ (by omega) (by omega))
        · exact absurd second (top _ (by omega) (by omega))
        · exact absurd third (top _ (by omega) (by omega))
      · simp only [List.mem_cons, List.not_mem_nil, or_false] at member
        rcases member with first | second | third | fourth
        · exact absurd first (top _ (by omega) (by omega))
        · exact absurd second (top _ (by omega) (by omega))
        · exact absurd third (top _ (by omega) (by omega))
        · exact absurd fourth (top _ (by omega) (by omega))

/-- A plain character is written as the byte of its number. -/
theorem encodeChar_of_plain {c : Char} (plain : c.toNat < 0x80) :
    String.utf8EncodeChar c = [UInt8.ofNat c.toNat] := by
  -- The code point is kept in two types.
  have same : c.val.toNat = c.toNat := rfl
  unfold String.utf8EncodeChar
  simp only [same]
  rw [if_pos (by omega)]

end AmigaRemote.Utf8
