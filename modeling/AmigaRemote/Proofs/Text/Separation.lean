import AmigaRemote.Proofs.Text.Words

/-! White space at the ends of a text and between its words, as relations that do not tell how a
text is read. Every text is trimmed, and cut into words, in one way only. -/

namespace AmigaRemote.Text

/-- White space alone, or nothing at all. -/
def Blank (gap : Text) : Prop :=
  ∀ c ∈ gap, isSpace c = true

/-- What a word may be: something without white space. -/
structure Solid (word : Text) : Prop where
  nonempty : word ≠ []
  free : ∀ c ∈ word, isSpace c = false

/-- A space is white space. -/
theorem blank_space : Blank [' '] := by
  -- The space is the only character there is.
  intro c member
  rw [List.mem_singleton.mp member]
  decide

/-- A text that ends in a word does not end in white space. -/
theorem Solid.last {front word : Text} (solid : Solid word) {c : Char}
    (last : (front ++ word).getLast? = some c) : isSpace c = false := by
  -- The last character is that of the word, since the word is not empty.
  rw [List.getLast?_append, List.getLast?_eq_some_getLast solid.nonempty] at last
  cases last
  exact solid.free _ (List.getLast_mem solid.nonempty)

/-- What is left of a text without the white space at its ends. -/
structure Trimmed (text body : Text) : Prop where
  whole : ∃ front back, text = front ++ (body ++ back) ∧ Blank front ∧ Blank back
  first : ∀ c, body.head? = some c → isSpace c = false
  last : ∀ c, body.getLast? = some c → isSpace c = false

/-- Words in the order in which they stand in a text, with white space between neighbours and maybe
at the ends. -/
inductive Separated : Text → List Text → Prop where
  | none {gap : Text} (blank : Blank gap) : Separated gap []
  | last {gap word : Text} (blank : Blank gap) (solid : Solid word) : Separated (gap ++ word) [word]
  | next {gap word rest : Text} {space : Char} {others : List Text} (blank : Blank gap)
    (solid : Solid word) (cut : isSpace space = true) (later : Separated (space :: rest) others) :
    Separated (gap ++ (word ++ space :: rest)) (word :: others)

/-- White space in front is in no word. -/
theorem words_append_of_blank {gap : Text} (blank : Blank gap) (text : Text) :
    words (gap ++ text) = words text := by
  -- By induction on the white space, one character after the other.
  induction gap with
  | nil => rfl
  | cons c gap ih =>
    obtain ⟨isSpace, others⟩ := List.forall_mem_cons.mp blank
    rw [List.cons_append, words_cons_of_space isSpace, ih others]

/-- Words that are separated in a text are read from it. -/
theorem Separated.words_eq {text : Text} {found : List Text} (separated : Separated text found) :
    words text = found := by
  induction separated with
  | none blank =>
    have empty := words_append_of_blank blank []
    rwa [List.append_nil] at empty
  | last blank solid => rw [words_append_of_blank blank, words_of_free solid.nonempty solid.free]
  | next blank solid cut later ih =>
    -- The white space behind the word belongs to neither side of the cut.
    rw [words_cons_of_space cut] at ih
    rw [words_append_of_blank blank, words_append cut, words_of_free solid.nonempty solid.free, ih]
    rfl

/-- White space in front of a text can be told from what is behind it. -/
theorem exists_gap (text : Text) :
    ∃ gap behind, text = gap ++ behind ∧ Blank gap ∧
      ∀ c, behind.head? = some c → isSpace c = false := by
  -- The white space in front is the longest stretch of it, so that what is behind begins otherwise.
  refine ⟨text.takeWhile isSpace, text.dropWhile isSpace,
    List.takeWhile_append_dropWhile.symm, fun c member => List.mem_takeWhile_imp member, ?_⟩
  intro c first
  have stopped := List.head?_dropWhile_not isSpace text
  rwa [first] at stopped

/-- A word at the front of a text ends with the text or before white space. -/
theorem exists_word {c : Char} (inWord : isSpace c = false) (text : Text) :
    ∃ word behind, c :: text = word ++ behind ∧ Solid word ∧
      ∀ d, behind.head? = some d → isSpace d = true := by
  let free (d : Char) : Bool := !isSpace d
  have kept : (c :: text).takeWhile free = c :: text.takeWhile free :=
    List.takeWhile_cons_of_pos (by simp [free, inWord])
  -- The word is the longest stretch without white space; it is not empty, since one character is
  -- known.
  refine ⟨(c :: text).takeWhile free, (c :: text).dropWhile free,
    List.takeWhile_append_dropWhile.symm, ⟨by rw [kept]; simp, ?_⟩, ?_⟩
  · intro d member
    simpa [free] using List.mem_takeWhile_imp member
  · intro d first
    have stopped := List.head?_dropWhile_not free (c :: text)
    rw [first] at stopped
    simpa [free] using stopped

/-- Every text has its words. -/
theorem exists_separated (text : Text) : ∃ found, Separated text found := by
  -- What stands behind the first word is shorter than the text.
  induction text using (measure (List.length (α := Char))).wf.induction with
  | _ text ih =>
    obtain ⟨gap, behind, rfl, blank, first⟩ := exists_gap text
    cases behind with
    | nil => exact ⟨[], by simpa using Separated.none blank⟩
    | cons c behind =>
      obtain ⟨word, later, same, solid, cut⟩ := exists_word (first c rfl) behind
      rw [same] at ih ⊢
      cases later with
      | nil => exact ⟨[word], by simpa using Separated.last blank solid⟩
      | cons space rest =>
        have some : 0 < word.length := List.length_pos_iff.mpr solid.nonempty
        have shorter : (space :: rest).length < (gap ++ (word ++ space :: rest)).length := by
          simp only [List.length_append, List.length_cons]
          omega
        obtain ⟨others, separated⟩ := ih (space :: rest) shorter
        exact ⟨word :: others, .next blank solid (cut space rfl) separated⟩

/-- The words that are read from a text are those that are separated in it. -/
theorem words_eq_iff {text : Text} {found : List Text} :
    words text = found ↔ Separated text found := by
  -- A separation of the text always exists, and it determines the words.
  constructor
  · rintro rfl
    obtain ⟨found, separated⟩ := exists_separated text
    rwa [separated.words_eq]
  · exact Separated.words_eq

/-- A text is trimmed to what is left of it without the white space at its ends. -/
theorem trimmed_trim (text : Text) : Trimmed text text.trim := by
  obtain ⟨gap, behind, rfl, blank, first⟩ := exists_gap text
  have dropped : (gap ++ behind).dropWhile isSpace = behind := by
    rw [List.dropWhile_append_of_pos blank]
    cases behind with
    | nil => rfl
    | cons c behind => exact List.dropWhile_cons_of_neg (by simp [first c rfl])
  obtain ⟨ends, whole, isBlank, last⟩ := @trimEndOf_parts isSpace behind
  rw [trim, dropped]
  refine ⟨⟨gap, ends, by rw [← whole], blank, isBlank⟩, ?_, last⟩
  intro c isFirst
  -- What is first in a part is first in the whole.
  refine first c ?_
  rw [whole, List.head?_append, isFirst]
  rfl

/-- A text is trimmed in one way only. -/
theorem Trimmed.trim_eq {text body : Text} (trimmed : Trimmed text body) : text.trim = body := by
  obtain ⟨⟨front, back, rfl, blank, isBlank⟩, first, last⟩ := trimmed
  rw [trim, List.dropWhile_append_of_pos blank]
  cases body with
  | nil =>
    -- Where nothing is left, all of it was white space.
    have all : back.dropWhile isSpace = [] := List.dropWhile_eq_nil_iff.mpr isBlank
    rw [List.nil_append, all]
    rfl
  | cons c body =>
    have kept : (c :: body ++ back).dropWhile isSpace = c :: body ++ back :=
      List.dropWhile_cons_of_neg (by simp [first c rfl])
    rw [kept, trimEndOf_append isBlank, trimEndOf_of_getLast? last]

end AmigaRemote.Text
