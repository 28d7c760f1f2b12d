import AmigaRemote.Proofs.Text.Decimal
import AmigaRemote.Proofs.Text.Separation
import AmigaRemote.Proofs.Wire.Encoding
import AmigaRemote.Wire.StreamEvent

/-! Remarks of the daemon: how they arrive, and what they say, which is told by the words that stand
in them. -/

namespace AmigaRemote

/-- A remark that is written alike in every encoding and does not end in a line end. -/
structure PlainRemark (remark : Text) : Prop where
  mark : remark.head? = some '#'
  plain : ∀ c ∈ remark, c.toNat < 0x80
  last : ∀ c, remark.getLast? = some c → c ≠ '\r' ∧ c ≠ '\n'

namespace PlainRemark

variable {remark : Text} {encoding : Encoding}

/-- A remark arrives without the line ends that were written behind it. -/
theorem ofChunk_encoded (isPlain : PlainRemark remark) {ends : Text} {bytes : Bytes}
    (lineEnds : ∀ c ∈ ends, c = '\r' ∨ c = '\n')
    (encoded : encoding.encode (remark ++ ends) = .ok bytes) :
    StreamEvent.ofChunk bytes true encoding = .comment remark := by
  have whole := Encoding.decode_of_encode encoded
  -- The mark is the first byte, so the chunk is a remark.
  have marked : bytes.head? = some StreamEvent.commentMark := by
    obtain ⟨rest, same⟩ := List.head?_eq_some_iff.mp isPlain.mark
    rw [same] at encoded
    obtain ⟨front, back, first, _, rfl⟩ := Encoding.encode_cons.mp encoded
    rw [Encoding.encode_singleton_of_plain (by decide)] at first
    cases first
    rfl
  have dropped : ∀ c ∈ ends, (decide (c = '\r') || decide (c = '\n')) = true := by
    simpa using lineEnds
  have kept : ∀ c, remark.getLast? = some c → (decide (c = '\r') || decide (c = '\n')) = false := by
    intro c isLast
    simpa using isPlain.last c isLast
  unfold StreamEvent.ofChunk
  rw [if_pos ⟨rfl, marked⟩, whole, Text.trimEndOf_append dropped, Text.trimEndOf_of_getLast? kept]

/-- Bytes of line ends are what line ends are written as. -/
theorem encode_lineEnds {ends : Bytes}
    (lineEnds : ∀ b ∈ ends, b = Line.carriageReturn ∨ b = Line.feed) :
    ∃ text : Text, encoding.encode text = .ok ends ∧ ∀ c ∈ text, c = '\r' ∨ c = '\n' := by
  -- By induction on the line ends, each of which both encodings write alike.
  induction ends with
  | nil => exact ⟨[], Encoding.encode_nil, List.forall_mem_nil _⟩
  | cons b ends ih =>
    obtain ⟨first, others⟩ := List.forall_mem_cons.mp lineEnds
    obtain ⟨text, encoded, areEnds⟩ := ih others
    have behind {c : Char} (plain : c.toNat < 0x80) :
        encoding.encode (c :: text) = .ok (UInt8.ofNat c.toNat :: ends) :=
      Encoding.encode_cons.mpr ⟨_, _, Encoding.encode_singleton_of_plain plain, encoded, rfl⟩
    rcases first with rfl | rfl
    · exact ⟨'\r' :: text, behind (by decide), List.forall_mem_cons.mpr ⟨.inl rfl, areEnds⟩⟩
    · exact ⟨'\n' :: text, behind (by decide), List.forall_mem_cons.mpr ⟨.inr rfl, areEnds⟩⟩

/-- A remark arrives as it was written, whatever bytes of line ends come behind it. -/
theorem arrives (isPlain : PlainRemark remark) (encoding : Encoding) :
    ∃ bytes, encoding.encode remark = .ok bytes ∧ ∀ ends,
      (∀ b ∈ ends, b = Line.carriageReturn ∨ b = Line.feed) →
        StreamEvent.ofChunk (bytes ++ ends) true encoding = .comment remark := by
  -- The remark is plain, and so are the line ends that are appended to it.
  have written := @Encoding.encode_of_plain encoding remark isPlain.plain
  refine ⟨_, written, ?_⟩
  intro ends lineEnds
  obtain ⟨text, encoded, areEnds⟩ := @encode_lineEnds encoding ends lineEnds
  apply isPlain.ofChunk_encoded areEnds
  exact Encoding.encode_append.mpr ⟨_, _, written, encoded, rfl⟩

/-- A remark that ends in a word does not end in a line end. -/
theorem of_solid {front word : Text} (mark : front.head? = some '#')
    (plain : ∀ c ∈ front ++ word, c.toNat < 0x80) (solid : word.Solid) :
    PlainRemark (front ++ word) where
  mark := by
    rw [List.head?_append, mark]
    rfl
  plain := plain
  last := by
    intro c last
    have noSpace := solid.last last
    -- Line ends are white space.
    refine ⟨?_, ?_⟩
    all_goals
      rintro rfl
      cases noSpace

end PlainRemark

namespace Notice

/-- What a remark says: what is left of it without its mark, if it has one, and without the white
space around the rest. -/
def HasBody (remark body : Text) : Prop :=
  ∃ text : Text, (remark = '#' :: text ∨ remark.head? ≠ some '#' ∧ remark = text) ∧ text.Trimmed body

/-- A text that gives a return code: behind `rc=` in the first word that begins so. -/
def GivesCode (text : Text) (rc : Int32) : Prop :=
  ∃ front number back, text.Separated (front ++ ("rc=".toList ++ number) :: back) ∧
    (∀ word ∈ front, ¬"rc=".toList <+: word) ∧ Decimal.SpellsInt rc.toInt number

/-- A remark that the traced program has ended, with its return code somewhere behind that. -/
def ReportsExit (remark : Text) (rc : Int32) : Prop :=
  ∃ rest, HasBody remark ("PROCESS EXITED".toList ++ rest) ∧ GivesCode rest rc

/-- A remark that events were lost, with their number as the word behind that. -/
def ReportsLoss (remark : Text) (dropped : UInt64) : Prop :=
  ∃ rest number others, HasBody remark ("OVERFLOW".toList ++ rest) ∧
    rest.Separated (number :: others) ∧ Decimal.Spells dropped.toNat number

variable {remark body : Text} {rc : Int32} {dropped : UInt64}

/-- Every remark says something, and what it means is what that means. -/
theorem exists_body (remark : Text) : ∃ body, HasBody remark body := by
  -- What is behind the mark, or else the whole, is trimmed.
  by_cases marked : remark.head? = some '#'
  · obtain ⟨text, same⟩ := List.head?_eq_some_iff.mp marked
    exact ⟨Text.trim text, text, .inl same, Text.trimmed_trim text⟩
  · exact ⟨remark.trim, remark, .inr ⟨marked, rfl⟩, Text.trimmed_trim remark⟩

/-- A remark that stands behind its mark and a space, and that ends in a word, says just that. -/
theorem hasBody_of_solid {front word : Text} {c : Char} (first : front.head? = some c)
    (noSpace : isSpace c = false) (solid : word.Solid) :
    HasBody ('#' :: ' ' :: (front ++ word)) (front ++ word) := by
  refine ⟨' ' :: (front ++ word), .inl rfl, ?_, ?_, ?_⟩
  -- The space behind the mark is trimmed off.
  · refine ⟨[' '], [], ?_, Text.blank_space, List.forall_mem_nil _⟩
    rw [List.append_nil]
    rfl
  · -- The first character is no white space.
    intro d isFirst
    rw [List.head?_append, first] at isFirst
    cases isFirst
    exact noSpace
  · -- And neither is the last one, which ends a word.
    intro d last
    exact solid.last last

/-- What a remark means is what its body means. -/
theorem HasBody.parse_eq (hasBody : HasBody remark body) : parse remark = ofBody body := by
  obtain ⟨text, mark, trimmed⟩ := hasBody
  unfold parse
  -- With the mark it is cut off, and without it nothing is cut.
  rcases mark with rfl | ⟨unmarked, rfl⟩
  · have behind : Text.after? ('#' :: text) ['#'] = some text := Text.after?_append ['#'] text
    rw [behind, Option.getD_some, trimmed.trim_eq]
  · cases behind : remark.after? ['#'] with
    | none => rw [Option.getD_none, trimmed.trim_eq]
    | some rest =>
      rw [Text.eq_append_of_after? behind] at unmarked
      exact absurd rfl unmarked

/-- What a remark means is decided by what it says. -/
theorem parse_eq_iff {notice : Notice} :
    parse remark = notice ↔ ∃ body, HasBody remark body ∧ ofBody body = notice := by
  -- The body is determined, so that the remark means what any body of it means.
  constructor
  · intro means
    obtain ⟨body, hasBody⟩ := exists_body remark
    exact ⟨body, hasBody, hasBody.parse_eq.symm.trans means⟩
  · rintro ⟨body, hasBody, means⟩
    exact hasBody.parse_eq.trans means

/-- A return code is found exactly where one is given. -/
theorem returnCode?_eq_some {text : Text} : returnCode? text = some rc ↔ GivesCode text rc := by
  simp only [returnCode?, Option.bind_eq_some_iff, List.findSome?_eq_some_iff,
    Decimal.int32?_eq_some]
  constructor
  · rintro ⟨number, ⟨front, word, back, cut, found, before⟩, spells⟩
    rw [Text.eq_append_of_after? found] at cut
    refine ⟨front, number, back, Text.words_eq_iff.mp cut, ?_, spells⟩
    -- A word in front with the mark would have been found.
    rintro other member ⟨rest, rfl⟩
    have none := before _ member
    rw [Text.after?_append] at none
    cases none
  · rintro ⟨front, number, back, separated, before, spells⟩
    refine ⟨number, ⟨front, _, back, separated.words_eq, Text.after?_append _ _, ?_⟩, spells⟩
    intro other member
    cases found : other.after? "rc=".toList with
    | none => rfl
    | some rest => exact absurd ⟨rest, (Text.eq_append_of_after? found).symm⟩ (before other member)

/-- The end of a program is read from a body that tells of it, whatever else stands there. -/
theorem ofBody_eq_processExited :
    ofBody body = .processExited rc ↔
      ∃ rest, body = "PROCESS EXITED".toList ++ rest ∧ GivesCode rest rc := by
  have told : (body.after? "PROCESS EXITED".toList).bind returnCode? = some rc ↔
      ∃ rest, body = "PROCESS EXITED".toList ++ rest ∧ GivesCode rest rc := by
    simp only [Option.bind_eq_some_iff, Text.after?_eq_some, returnCode?_eq_some]
  rw [← told]
  unfold ofBody
  cases (body.after? "PROCESS EXITED".toList).bind returnCode? with
  | some code => simp
  | none =>
    -- A loss and any other remark are no end of a program.
    simp only [reduceCtorEq, iff_false]
    split <;> nofun

/-- A loss is read from a body that tells of it. -/
theorem ofBody_eq_overflow :
    ofBody body = .overflow dropped ↔
      ∃ rest number others, body = "OVERFLOW".toList ++ rest ∧
        rest.Separated (number :: others) ∧ Decimal.Spells dropped.toNat number := by
  have counted : ((body.after? "OVERFLOW".toList).bind fun rest =>
        rest.words.head?.bind Decimal.uint64?) = some dropped ↔
      ∃ rest number others, body = "OVERFLOW".toList ++ rest ∧
        rest.Separated (number :: others) ∧ Decimal.Spells dropped.toNat number := by
    simp only [Option.bind_eq_some_iff, Text.after?_eq_some, List.head?_eq_some_iff,
      Text.words_eq_iff, Decimal.uint64?_eq_some]
    constructor
    · rintro ⟨rest, same, number, ⟨others, separated⟩, spells⟩
      exact ⟨rest, number, others, same, separated, spells⟩
    · rintro ⟨rest, number, others, same, separated, spells⟩
      exact ⟨rest, same, number, ⟨others, separated⟩, spells⟩
  rw [← counted]
  unfold ofBody
  constructor
  · intro means
    split at means
    · cases means
    · dsimp only at means
      split at means
      · rename_i found
        cases means
        exact found
      · cases means
  · intro found
    obtain ⟨rest, behind, _⟩ := Option.bind_eq_some_iff.mp found
    -- What begins like a loss does not begin like the end of a program.
    have noExit : body.after? "PROCESS EXITED".toList = none := by
      rw [Text.eq_append_of_after? behind]
      apply Text.after?_cons_of_ne
      decide
    simp only [noExit, Option.bind_none, found]

/-- The end of a program is read exactly from the remarks that report it. -/
theorem parse_eq_processExited : parse remark = .processExited rc ↔ ReportsExit remark rc := by
  simp only [parse_eq_iff, ofBody_eq_processExited]
  -- The body is what is in question on both sides.
  constructor
  · rintro ⟨_, hasBody, rest, rfl, gives⟩
    exact ⟨rest, hasBody, gives⟩
  · rintro ⟨rest, hasBody, gives⟩
    exact ⟨_, hasBody, rest, rfl, gives⟩

/-- The first word that begins like a return code decides, and one within another word does not. -/
example : parse "#PROCESS EXITED src=1 rc=-07 rc=8".toList = .processExited (-7) := by decide

/-- A loss is read exactly from the remarks that report it. -/
theorem parse_eq_overflow : parse remark = .overflow dropped ↔ ReportsLoss remark dropped := by
  simp only [parse_eq_iff, ofBody_eq_overflow]
  -- As above, with the number in front of the word.
  constructor
  · rintro ⟨_, hasBody, rest, number, others, rfl, counts⟩
    exact ⟨rest, number, others, hasBody, counts⟩
  · rintro ⟨rest, number, others, hasBody, counts⟩
    exact ⟨_, hasBody, rest, number, others, rfl, counts⟩

end Notice
end AmigaRemote
