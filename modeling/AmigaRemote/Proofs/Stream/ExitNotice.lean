import AmigaRemote.Proofs.Stream.Crossing
import AmigaRemote.Proofs.Wire.Remarks

/-! The notice that a traced program has ended is taken for that, whatever number the program
returned. -/

namespace AmigaRemote

/-- What a number in a notice is written behind. -/
def returnCodeMark : Text :=
  "rc=".toList

/-- What a daemon says at the end of a traced program. -/
def exitNotice (rc : Int32) : Text :=
  "# PROCESS EXITED ".toList ++ (returnCodeMark ++ Decimal.ofInt rc.toInt)

/-- A character of the code points of digits and signs is no white space. -/
theorem isSpace_of_plain {c : Char} (plain : 45 ≤ c.toNat ∧ c.toNat ≤ 57) :
    isSpace c = false := by
  unfold isSpace
  -- All code points of white space lie below or above those.
  simp only [Bool.or_eq_false_iff, Bool.and_eq_false_iff, decide_eq_false_iff_not,
    beq_eq_false_iff_ne]
  omega

/-- The number in a notice is one word. -/
theorem solid_returnCode (rc : Int32) : Text.Solid (returnCodeMark ++ Decimal.ofInt rc.toInt) where
  nonempty := List.append_ne_nil_of_left_ne_nil (by decide) _
  free := by
    -- The mark is free of white space, and so are digits and a minus.
    intro c member
    rcases List.mem_append.mp member with mark | number
    · have marks : returnCodeMark.all (fun c => isSpace c = false) = true := rfl
      simpa using List.all_eq_true.mp marks c mark
    · exact isSpace_of_plain (Decimal.plain_of_mem_ofInt number)

/-- A notice of the end of a traced program gives the number that the program returned. -/
theorem Notice.reportsExit_exitNotice (rc : Int32) : ReportsExit (exitNotice rc) rc := by
  have solid := solid_returnCode rc
  have spells : Decimal.SpellsInt rc.toInt (Decimal.ofInt rc.toInt) :=
    Decimal.int32?_eq_some.mp (Decimal.int32?_ofInt rc)
  unfold exitNotice
  generalize Decimal.ofInt rc.toInt = number at solid spells ⊢
  -- Behind the words there is a space, and then nothing but the word with the number.
  have gives : GivesCode ([' '] ++ (returnCodeMark ++ number)) rc :=
    ⟨[], number, [], .last Text.blank_space solid, List.forall_mem_nil _, spells⟩
  generalize returnCodeMark ++ number = word at solid gives ⊢
  have front : "# PROCESS EXITED ".toList = '#' :: ' ' :: ("PROCESS EXITED".toList ++ [' ']) := rfl
  have first : ("PROCESS EXITED".toList ++ [' ']).head? = some 'P' := rfl
  refine ⟨[' '] ++ word, ?_, gives⟩
  rw [front, ← List.append_assoc]
  exact hasBody_of_solid first rfl solid

/-- A notice of the end of a traced program says which number the program returned. -/
theorem Notice.parse_exitNotice (rc : Int32) :
    Notice.parse (exitNotice rc) = .processExited rc :=
  -- The notice is one of those that report an exit.
  parse_eq_processExited.mpr (reportsExit_exitNotice rc)

/-- A notice of the end of a traced program is a remark that is written alike in every encoding. -/
theorem plainRemark_exitNotice (rc : Int32) : PlainRemark (exitNotice rc) := by
  refine .of_solid rfl ?_ (solid_returnCode rc)
  intro c member
  have front : "# PROCESS EXITED ".toList.all (fun c => c.toNat < 0x80) = true := rfl
  have mark : returnCodeMark.all (fun c => c.toNat < 0x80) = true := rfl
  -- All parts of the notice are plain characters.
  rcases List.mem_append.mp member with inFront | number
  · simpa using List.all_eq_true.mp front c inFront
  · rcases List.mem_append.mp number with inMark | digit
    · simpa using List.all_eq_true.mp mark c inMark
    · have := Decimal.plain_of_mem_ofInt digit
      omega

/-- The daemon's notice of the end of a traced program is taken for that in every encoding, with
whatever line ends behind it. -/
theorem Crossing.tellsExit_exitNotice {ends : Text} (lineEnds : ∀ c ∈ ends, c = '\r' ∨ c = '\n')
    (encoding : Encoding) (rc : Int32) :
    ∃ bytes, encoding.encode (exitNotice rc ++ ends) = .ok bytes ∧
      TellsExit .traceRun encoding bytes := by
  -- The notice and its line ends are plain text, which every encoding writes alike.
  have plain : ∀ c ∈ exitNotice rc ++ ends, c.toNat < 0x80 := by
    intro c member
    rcases List.mem_append.mp member with notice | last
    · exact (plainRemark_exitNotice rc).plain c notice
    · rcases lineEnds c last with rfl | rfl
      all_goals decide
  have encoded := @Encoding.encode_of_plain encoding _ plain
  refine ⟨_, encoded, ?_⟩
  unfold TellsExit
  refine ⟨rfl, ?_⟩
  show Session.tellsExit (StreamEvent.ofChunk _ true encoding) = true
  -- What is decoded is the notice without its line ends.
  rw [(plainRemark_exitNotice rc).ofChunk_encoded lineEnds encoded]
  have told := Notice.parse_exitNotice rc
  unfold Session.tellsExit
  simp only [told]

end AmigaRemote
