import AmigaRemote.Text.Space
import Mathlib.Data.List.TakeDrop
import Mathlib.Data.List.TakeWhile

/-! Cutting a text at its ends, into words and into fields, where the cuts are known. -/

namespace AmigaRemote.Text

/-- What follows a text is what was put behind it. -/
theorem after?_append (lead rest : Text) : (lead ++ rest).after? lead = some rest := by
  -- By induction on the lead, which is compared character by character.
  induction lead with
  | nil => cases rest <;> rfl
  | cons c lead ih => exact (if_pos (beq_self_eq_true c)).trans ih

/-- What follows a beginning stands behind it. -/
theorem eq_append_of_after? {text lead rest : Text} (follows : text.after? lead = some rest) :
    text = lead ++ rest := by
  -- By induction on the lead: the text has to have each of its characters.
  induction lead generalizing text with
  | nil =>
    cases text <;> cases follows <;> rfl
  | cons c lead ih =>
    cases text with
    | nil => cases follows
    | cons d text =>
      have step : after? (d :: text) (c :: lead) = if c == d then after? text lead else none := rfl
      rw [step] at follows
      split at follows
      · rename_i same
        rw [ih follows, eq_of_beq same, List.cons_append]
      · cases follows

/-- What follows a beginning is all that stands behind it. -/
theorem after?_eq_some {text lead rest : Text} :
    text.after? lead = some rest ↔ text = lead ++ rest :=
  -- The two directions are the two lemmas before.
  ⟨eq_append_of_after?, fun same => same ▸ after?_append lead rest⟩

/-- Nothing follows a text that begins otherwise. -/
theorem after?_cons_of_ne {c d : Char} {lead rest : Text} (differ : d ≠ c) :
    after? (c :: rest) (d :: lead) = none :=
  -- The first characters differ already.
  if_neg (by simpa using differ)

section Ends

variable {drops : Char → Bool}

/-- What is trimmed away stood at the end and was of the class, and nothing of the class is left
there. -/
theorem trimEndOf_parts (text : Text) :
    ∃ ends, text = text.trimEndOf drops ++ ends ∧ (∀ c ∈ ends, drops c = true) ∧
      ∀ c, (text.trimEndOf drops).getLast? = some c → drops c = false := by
  refine ⟨(text.reverse.takeWhile drops).reverse, ?_, fun c member => ?_, fun c last => ?_⟩
  · rw [trimEndOf, ← List.reverse_append, List.takeWhile_append_dropWhile, List.reverse_reverse]
  · exact List.mem_takeWhile_imp (List.mem_reverse.mp member)
  · -- The last character that is left is the first one that was not dropped.
    rw [trimEndOf, List.getLast?_reverse] at last
    have first := List.head?_dropWhile_not drops text.reverse
    rwa [last] at first

/-- An end made of dropped characters is dropped whole. -/
theorem trimEndOf_append {text ends : Text} (dropped : ∀ c ∈ ends, drops c = true) :
    (text ++ ends).trimEndOf drops = text.trimEndOf drops := by
  -- From the end, the dropped characters come first.
  have last : ∀ c ∈ ends.reverse, drops c = true :=
    fun c member => dropped c (List.mem_reverse.mp member)
  unfold trimEndOf
  rw [List.reverse_append, List.dropWhile_append_of_pos last]

/-- A text stays as it is if its last character stays. -/
theorem trimEndOf_of_getLast? {text : Text}
    (stays : ∀ c, text.getLast? = some c → drops c = false) : text.trimEndOf drops = text := by
  unfold trimEndOf
  rw [List.getLast?_eq_head?_reverse] at stays
  -- The text is cut from its end, where nothing is dropped.
  cases shape : text.reverse with
  | nil => rw [List.reverse_eq_nil_iff.mp shape]; rfl
  | cons c rest =>
    rw [shape] at stays
    have kept : ¬drops c = true := by simp [stays c rfl]
    rw [List.dropWhile_cons_of_neg kept, ← shape, List.reverse_reverse]

end Ends

/-- The words are the stretches between white space that are not empty, as the library cuts a
list. -/
theorem words_eq_splitOnP (text : Text) :
    words text = (text.splitOnP isSpace).filter (· ≠ []) := by
  unfold words
  congr 1
  -- Both are built from the end, so that induction on the text goes through the cuts.
  induction text with
  | nil => rfl
  | cons c text ih =>
    rw [List.foldr_cons, ih, List.splitOnP_cons_eq_if_modifyHead]
    obtain ⟨part, rest, same⟩ := List.exists_cons_of_ne_nil (List.splitOnP_ne_nil isSpace text)
    simp [same]

/-- White space in front is in no word. -/
theorem words_cons_of_space {space : Char} (cut : isSpace space = true) (text : Text) :
    words (space :: text) = words text := by
  -- The cut makes an empty stretch in front, which is no word.
  rw [words_eq_splitOnP, List.splitOnP_cons_eq_if_modifyHead, if_pos cut, words_eq_splitOnP]
  simp

/-- A stretch without white space is one word. -/
theorem words_of_free {word : Text} (some : word ≠ []) (free : ∀ c ∈ word, isSpace c = false) :
    words word = [word] := by
  -- It is not cut anywhere, and it is not empty.
  rw [words_eq_splitOnP, List.splitOnP_eq_singleton free]
  simp [some]

/-- No word goes on past white space. -/
theorem words_append {space : Char} (cut : isSpace space = true) (front back : Text) :
    words (front ++ space :: back) = words front ++ words back := by
  -- The library cuts each side by itself.
  simp only [words_eq_splitOnP]
  rw [List.splitOnP_append_cons front back cut, List.filter_append]

/-- In a text without a separator each character is another one. -/
theorem ne_of_free {sep : Char} {text : Text} (free : sep ∉ text) :
    ∀ c ∈ text, decide (c ≠ sep) = true := by
  intro c member
  -- A character that is the separator would be in the text.
  exact decide_eq_true fun same => free (same ▸ member)

/-- A text is cut at its first separator. -/
theorem splitFirst?_append {sep : Char} {before : Text} (free : sep ∉ before) (after : Text) :
    splitFirst? sep (before ++ sep :: after) = some (before, after) := by
  have passed := ne_of_free free
  unfold splitFirst?
  -- The first part is the longest stretch without a separator.
  rw [List.span_eq_takeWhile_dropWhile, List.takeWhile_append_of_pos passed,
    List.dropWhile_append_of_pos passed]
  simp

/-- A text without a separator is not cut. -/
theorem splitFirst?_of_free {sep : Char} {text : Text} (free : sep ∉ text) :
    splitFirst? sep text = none := by
  unfold splitFirst?
  -- The stretch in front of a separator is the whole text.
  rw [List.span_eq_takeWhile_dropWhile, List.dropWhile_eq_nil_iff.2 (ne_of_free free)]

/-- A separator opens a field, and every other character extends the first one. -/
theorem fields_cons (sep c : Char) (text : Text) :
    fields sep (c :: text) =
      if c = sep then [] :: fields sep text
      else match fields sep text with
        | [] => [[c]]
        | part :: rest => (c :: part) :: rest := rfl

/-- The fields are the parts between the separators, as the library cuts a list. -/
theorem fields_eq_splitOn (sep : Char) (text : Text) : fields sep text = text.splitOn sep := by
  -- By induction on the text, since both make their fields from the end.
  induction text with
  | nil => rfl
  | cons c text ih =>
    rw [fields_cons, List.splitOn_cons_eq_if_modifyHead, ih]
    obtain ⟨part, rest, same⟩ := List.exists_cons_of_ne_nil (List.splitOn_ne_nil sep text)
    by_cases cut : c = sep
    · simp [cut]
    · simp [cut, same]

/-- There is a field, if an empty one. -/
theorem fields_ne_nil (sep : Char) (text : Text) : fields sep text ≠ [] := by
  -- The library makes one part at least.
  rw [fields_eq_splitOn]
  exact List.splitOn_ne_nil sep text

/-- No field goes on past a separator. -/
theorem fields_append (sep : Char) (front back : Text) :
    fields sep (front ++ sep :: back) = fields sep front ++ fields sep back := by
  -- The library cuts each side by itself.
  simp only [fields_eq_splitOn]
  exact List.splitOn_append_cons_self front back

/-- A field in front is what stands before the first separator. -/
theorem fields_of_free_append {sep : Char} {part : Text} (free : sep ∉ part) (rest : Text) :
    fields sep (part ++ sep :: rest) = part :: fields sep rest := by
  -- The part in front is not cut.
  simp only [fields_eq_splitOn]
  exact List.splitOn_append_cons_self_of_not_mem free rest

/-- A text without a separator is one field. -/
theorem fields_of_free {sep : Char} {text : Text} (free : sep ∉ text) :
    fields sep text = [text] := by
  -- It is not cut anywhere.
  rw [fields_eq_splitOn]
  exact List.splitOn_eq_singleton free

/-- Nothing is lost between the fields but the separators. -/
theorem join_fields (sep : Char) (text : Text) : join [sep] (fields sep text) = text := by
  -- The library puts together what it has cut.
  rw [fields_eq_splitOn]
  exact List.intercalate_splitOn sep

/-- What is put together comes from the parts or from between them. -/
theorem mem_of_mem_join {sep c : Char} {parts : List Text} (member : c ∈ join [sep] parts) :
    c = sep ∨ ∃ part ∈ parts, c ∈ part := by
  -- By induction on the parts, with a separator between any two.
  induction parts with
  | nil => cases member
  | cons part parts ih =>
    cases parts with
    | nil =>
      rw [join, List.intercalate_singleton] at member
      exact .inr ⟨part, List.mem_singleton_self part, member⟩
    | cons next parts =>
      rw [join, List.intercalate_cons_cons, List.mem_append, List.mem_append,
        List.mem_singleton] at member
      rcases member with (within | same) | later
      · exact .inr ⟨part, List.mem_cons_self, within⟩
      · exact .inl same
      · exact (ih later).imp id fun ⟨other, isPart, within⟩ =>
          ⟨other, List.mem_cons_of_mem part isPart, within⟩

/-- Parts without separators are the first fields, whatever was put behind them. -/
theorem exists_fields_join {sep : Char} {parts : List Text} (some : parts ≠ [])
    (free : ∀ part ∈ parts, sep ∉ part) (others : List Text) :
    ∃ more, fields sep (join [sep] (parts ++ others)) = parts ++ more := by
  induction parts with
  | nil => exact absurd rfl some
  | cons part parts ih =>
    have firstFree : sep ∉ part := free part List.mem_cons_self
    rw [List.cons_append]
    cases left : parts ++ others with
    | nil =>
      -- Nothing was put behind a single part.
      obtain ⟨rfl, rfl⟩ := List.append_eq_nil_iff.mp left
      exact ⟨[], by rw [join, List.intercalate_singleton, fields_of_free firstFree]; rfl⟩
    | cons next later =>
      rw [join, List.intercalate_cons_cons, List.append_assoc, List.singleton_append,
        fields_of_free_append firstFree, ← join, ← left]
      by_cases last : parts = []
      · exact ⟨_, by rw [last]; rfl⟩
      · obtain ⟨more, same⟩ := ih last fun other member =>
          free other (List.mem_cons_of_mem part member)
        exact ⟨more, by rw [same]; rfl⟩

end AmigaRemote.Text
