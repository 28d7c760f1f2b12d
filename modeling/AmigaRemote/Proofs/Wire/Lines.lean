import AmigaRemote.Proofs.Text.Words
import AmigaRemote.Proofs.Wire.Encoding
import AmigaRemote.Wire.Reader

/-! What becomes of the text of a line on its way: dots are added and taken away again, and a
carriage return at the end is lost. -/

namespace AmigaRemote

namespace Line

/-- A text that one line can carry unchanged. -/
def Safe (text : Text) : Prop :=
  '\n' ∉ text ∧ text.getLast? ≠ some '\r'

instance (text : Text) : Decidable (Safe text) :=
  inferInstanceAs (Decidable (_ ∧ _))

/-- A line as it is read: without a carriage return at its end. -/
def received (text : Text) : Text :=
  if text.getLast? = some '\r' then text.dropLast else text

/-- A line is read unchanged exactly if it does not end in a carriage return. -/
theorem received_eq_self {text : Text} : received text = text ↔ text.getLast? ≠ some '\r' := by
  unfold received
  split
  · rename_i ends
    refine ⟨fun same => ?_, fun other => absurd ends other⟩
    -- Without its last character the text would be shorter.
    have lengths := congrArg List.length same
    have nonempty : text ≠ [] := fun none => by simp [none] at ends
    have := List.length_pos_iff.mpr nonempty
    rw [List.length_dropLast] at lengths
    omega
  · rename_i other
    exact ⟨fun _ => other, fun _ => rfl⟩

/-- Lines are read unchanged exactly if none of them ends in a carriage return. -/
theorem map_received_eq_self {lines : List Text} :
    lines.map received = lines ↔ ∀ line ∈ lines, line.getLast? ≠ some '\r' := by
  -- By induction on the lines, for which the question is the same one by one.
  induction lines with
  | nil => simp
  | cons line lines ih => simp [ih, received_eq_self]

/-- What stands before the last character arrives as it is. -/
theorem received_append {front back : Text} (nonempty : back ≠ []) :
    received (front ++ back) = front ++ received back := by
  -- The last character of the whole is that of its last part.
  have ends : (front ++ back).getLast? = back.getLast? := by
    rw [List.getLast?_append, List.getLast?_eq_some_getLast nonempty]
    rfl
  unfold received
  rw [ends]
  split
  · exact List.dropLast_append_of_ne_nil nonempty
  · rfl

/-- The dot that was added is taken away again, and no other. -/
@[simp] theorem unstuff_stuff (line : Text) : unstuff (stuff line) = line := by
  rcases line with _ | ⟨c, rest⟩
  · rfl
  · by_cases dot : c = '.'
    · subst dot
      rfl
    · -- A line without a leading dot is neither changed on its way out nor on its way in.
      simp [stuff, unstuff, dot]

/-- No payload line can be taken for the sentinel. -/
theorem stuff_ne_sentinel (line : Text) : stuff line ≠ sentinel := by
  -- The sentinel is one dot, and a line that begins with a dot gets another one.
  rcases line with _ | ⟨c, rest⟩
  · simp [stuff, sentinel]
  · by_cases dot : c = '.'
    · subst dot
      simp [stuff, sentinel]
    · simp [stuff, sentinel, dot]

/-- Added dots stand before everything that is lost. -/
theorem received_stuff (line : Text) : received (stuff line) = stuff (received line) := by
  rcases line with _ | ⟨c, rest⟩
  · rfl
  · by_cases dot : c = '.'
    · subst dot
      change received (['.'] ++ '.' :: rest) = _
      rw [received_append (by simp)]
      -- A line of a dot and a carriage return still begins with its dot.
      have begins : ∃ tail, received ('.' :: rest) = '.' :: tail := by
        unfold received
        split
        · rcases rest with _ | ⟨d, rest⟩
          · rename_i ends
            simp at ends
          · exact ⟨_, rfl⟩
        · exact ⟨rest, rfl⟩
      obtain ⟨tail, same⟩ := begins
      rw [same]
      rfl
    · -- Without a dot in front nothing is added, before or after the loss.
      have plain : ∀ text : Text, text.head? ≠ some '.' → stuff text = text := by
        intro text other
        rcases text with _ | ⟨d, text⟩
        · rfl
        · have : d ≠ '.' := by simpa using other
          simp [stuff, this]
      rw [plain (c :: rest) (by simpa using dot), plain]
      unfold received
      split
      · rcases rest with _ | ⟨d, rest⟩
        · simp
        · simpa using dot
      · simpa using dot

/-- Added dots bring no line end. -/
theorem count_stuff (line : Text) : (stuff line).count '\n' = line.count '\n' := by
  -- The added dot is no line end.
  rcases line with _ | ⟨c, rest⟩
  · rfl
  · by_cases dot : c = '.'
    · subst dot
      simp [stuff]
    · simp [stuff, dot]

end Line

namespace Status

/-- The words of the verdicts are plain. -/
theorem word_plain (status : Status) : ∀ c ∈ status.word, c.toNat < 0x80 := by
  -- The words are two, and their letters are plain.
  cases status <;> simp [word]

/-- After the word and a space everything is info. -/
theorem parseLine_spaced (status : Status) (info : Text) :
    parseLine (status.word ++ ' ' :: info) = .ok (status, info) := by
  -- Each of the two words is cut off by computation.
  cases status <;> rfl

/-- A status line is its word, with a space and the info behind it unless there is no info. -/
theorem eq_of_parseLine {status : Status} {text info : Text}
    (parsed : parseLine text = .ok (status, info)) :
    text = status.word ∧ info = [] ∨ text = status.word ++ ' ' :: info := by
  unfold parseLine at parsed
  -- The four ways to a verdict are the two words, alone or with a space behind them.
  split at parsed
  · cases parsed
    exact .inl ⟨‹_›, rfl⟩
  · split at parsed
    · cases parsed
      exact .inl ⟨‹_›, rfl⟩
    · split at parsed
      · rename_i follows
        cases parsed
        exact .inr (by simpa using Text.eq_append_of_after? follows)
      · split at parsed
        · rename_i follows
          cases parsed
          exact .inr (by simpa using Text.eq_append_of_after? follows)
        · cases parsed

/-- A status line is understood as it was meant. -/
theorem parseLine_line (status : Status) (info : Text) :
    parseLine (status.line info) = .ok (status, info) := by
  -- Without info there is no space behind the word.
  unfold line
  split
  · rename_i none
    subst none
    cases status <;> rfl
  · exact parseLine_spaced status info

/-- A status line can be carried unchanged if its info can. -/
theorem safe_of_parseLine {status : Status} {text info : Text}
    (parsed : parseLine text = .ok (status, info)) (safe : Line.Safe info) : Line.Safe text := by
  obtain ⟨noFeed, noReturn⟩ := safe
  rcases eq_of_parseLine parsed with ⟨rfl, _⟩ | rfl
  · cases status <;> decide
  · refine ⟨?_, ?_⟩
    · cases status <;> simpa [word] using noFeed
    · -- The last character is that of the info, or the space.
      rw [List.getLast?_append, List.getLast?_cons]
      cases last : info.getLast? with
      | none => simp
      | some c => simpa [last] using noReturn

/-- A status line loses what its info loses. -/
theorem parseLine_received (status : Status) (info : Text) :
    parseLine (Line.received (status.line info)) = .ok (status, Line.received info) := by
  unfold line
  split
  · rename_i none
    subst none
    cases status <;> rfl
  · rename_i nonempty
    -- The word and the space stand before the info, which is all that can be cut.
    have split : status.word ++ ' ' :: info = (status.word ++ [' ']) ++ info := by simp
    rw [split, Line.received_append nonempty, List.append_assoc]
    exact parseLine_spaced status _

/-- The word of a status line brings no line end. -/
theorem count_line (status : Status) (info : Text) :
    (status.line info).count '\n' = info.count '\n' := by
  -- Neither word has a line end in it, nor has the space.
  unfold line
  split
  · rename_i none
    subst none
    cases status <;> rfl
  · cases status <;> simp [word]

end Status

/-- A written line without a line end is read without the carriage return at its end. -/
theorem Encoding.decode_dropCarriageReturn {encoding : Encoding} {text : Text} {raw : Bytes}
    (encoded : encoding.encode text = .ok raw) :
    encoding.decode (dropCarriageReturn raw) = Line.received text := by
  unfold dropCarriageReturn Line.received
  simp only [getLast?_carriageReturn encoded]
  split
  · rename_i ends
    -- The last byte is all there is of the last character.
    obtain ⟨init, rfl⟩ := List.getLast?_eq_some_iff.mp ends
    obtain ⟨front, back, first, last, rfl⟩ := encode_append.mp encoded
    rw [encode_singleton_of_plain (by decide)] at last
    cases last
    rw [List.dropLast_concat, List.dropLast_concat]
    exact decode_of_encode first
  · exact decode_of_encode encoded

end AmigaRemote
