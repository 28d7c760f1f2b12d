import AmigaRemote.Proofs.Except
import AmigaRemote.Proofs.Text.Decimal
import AmigaRemote.Proofs.Text.Words
import AmigaRemote.Proofs.Wire.Lines
import AmigaRemote.Reply.DirEntry
import Mathlib.Data.List.Forall2

/-! Listings are read as they were written: every row tells its entry, and a line that lacks
something of an entry is refused. -/

namespace AmigaRemote

/-- A character whose capital is plain and visible is so itself. -/
theorem Char.visible_of_toUpper {c : Char}
    (visible : 0x20 < c.toUpper.toNat ∧ c.toUpper.toNat < 0x80) :
    0x20 < c.toNat ∧ c.toNat < 0x80 := by
  unfold Char.toUpper at visible
  split at visible
  · -- A character with another capital is one of the small letters.
    rename_i small
    have above : 97 ≤ c.toNat := UInt32.le_iff_toNat_le.mp small.1
    have below : c.toNat ≤ 122 := UInt32.le_iff_toNat_le.mp small.2
    omega
  · exact visible

/-- The capitals of a plain text are those of its characters. -/
theorem Text.isInCapitals_of_plain {word text : Text} (plain : ∀ c ∈ text, c.toNat < 0x80) :
    isInCapitals word text = (text.map Char.toUpper == word) := by
  -- Each character of a plain text has one capital, so that the capitals are the text mapped.
  have capitals : text.mapM plainCapitals? = some (text.map fun c => [c.toUpper]) := by
    induction text with
    | nil => rfl
    | cons c text ih =>
      rw [List.forall_mem_cons] at plain
      have first : plainCapitals? c = some [c.toUpper] := if_pos plain.1
      rw [List.mapM_cons, ih plain.2, first]
      rfl
  simp only [isInCapitals, capitals]
  rw [← List.flatMap_def, List.map_eq_flatMap]

namespace EntryKind

/-- The name of a kind in a listing. -/
def capitals : EntryKind → Text
  | file => "FILE".toList
  | dir => "DIR".toList

section Word

variable {kind : EntryKind} {word : Text} (same : word.map Char.toUpper = kind.capitals)
include same

/-- The name of a kind is plain and visible however it is written. -/
theorem visible_of_toUpper : ∀ c ∈ word, 0x20 < c.toNat ∧ c.toNat < 0x80 := by
  -- Of the names in capitals this is checked one by one; a small letter is visible if its capital
  -- is.
  have capitals : ∀ c ∈ kind.capitals, 0x20 < c.toNat ∧ c.toNat < 0x80 := by
    cases kind <;> simp [capitals]
  intro c member
  have capital : c.toUpper ∈ kind.capitals := same ▸ List.mem_map_of_mem member
  exact Char.visible_of_toUpper (capitals _ capital)

/-- The name of a kind is known however it is written. -/
theorem parse?_of_toUpper : parse? word = some kind := by
  have plain : ∀ c ∈ word, c.toNat < 0x80 := by
    intro c member
    exact (visible_of_toUpper same c member).2
  unfold parse?
  rw [Text.isInCapitals_of_plain plain, Text.isInCapitals_of_plain plain, same]
  -- No kind has the name of another one.
  cases kind <;> decide

end Word

end EntryKind

namespace DirEntry

/-- A line that tells enough of an entry: a kind, a name and a size. -/
structure Suffices (line : Text) : Prop where
  kind : ∃ word kind, (line.fields '\t')[0]? = some word ∧ EntryKind.parse? word = some kind
  name : ∃ name, (line.fields '\t')[1]? = some name ∧ name ≠ []
  size : ∃ text size, (line.fields '\t')[2]? = some text ∧ Decimal.Spells size text ∧
    size < UInt64.size

/-- An entry that a line tells. Protection and date may be left out. -/
structure Describes (entry : DirEntry) (line : Text) : Prop where
  kind : ∃ word, (line.fields '\t')[0]? = some word ∧ EntryKind.parse? word = some entry.kind
  name : (line.fields '\t')[1]? = some entry.name
  named : entry.name ≠ []
  size : ∃ text, (line.fields '\t')[2]? = some text ∧ Decimal.Spells entry.size.toNat text
  protection : entry.protection = (line.fields '\t')[3]?.getD []
  datestamp : entry.datestamp = (line.fields '\t')[4]?.getD []

section Lines

variable {line : Text} {entry : DirEntry}

/-- A line with a kind, a name and a size is read as the entry that it tells. -/
theorem parse_of_fields {word name size : Text} {rest : List Text} {kind : EntryKind} {n : UInt64}
    (cut : line.fields '\t' = word :: name :: size :: rest)
    (isKind : EntryKind.parse? word = some kind) (named : name ≠ [])
    (isSize : Decimal.uint64? size = some n) :
    parse line = .ok ⟨kind, name, n, rest[0]?.getD [], rest[1]?.getD []⟩ := by
  -- Nothing is lacking, so that every test of the parser passes.
  unfold parse
  simp only [cut, if_neg named, isKind, isSize]
  rfl

/-- Only such lines are read as entries. -/
theorem exists_fields_of_parse (parsed : parse line = .ok entry) :
    ∃ word name size rest kind n, line.fields '\t' = word :: name :: size :: rest ∧
      EntryKind.parse? word = some kind ∧ name ≠ [] ∧ Decimal.uint64? size = some n := by
  unfold parse at parsed
  rcases cut : line.fields '\t' with _ | ⟨word, _ | ⟨name, _ | ⟨size, rest⟩⟩⟩
  case cons.cons.cons =>
    simp only [cut] at parsed
    by_cases named : name = []
    · rw [if_pos named] at parsed
      cases parsed
    · rw [if_neg named] at parsed
      cases isKind : EntryKind.parse? word with
      | none =>
        rw [isKind] at parsed
        cases parsed
      | some kind =>
        cases isSize : Decimal.uint64? size with
        | none =>
          rw [isKind, isSize] at parsed
          cases parsed
        | some n => exact ⟨word, name, size, rest, kind, n, rfl, isKind, named, isSize⟩
  -- With fewer fields there is no entry.
  all_goals
    simp only [cut] at parsed
    cases parsed

/-- An entry is read from a line exactly if the line tells it. -/
theorem parse_eq_ok : parse line = .ok entry ↔ entry.Describes line := by
  constructor
  · intro parsed
    obtain ⟨word, name, size, rest, kind, n, cut, isKind, named, isSize⟩ :=
      exists_fields_of_parse parsed
    rw [parse_of_fields cut isKind named isSize] at parsed
    cases parsed
    constructor
    · exact ⟨word, by simp [cut], isKind⟩
    · simp [cut]
    · exact named
    · exact ⟨size, by simp [cut], Decimal.uint64?_eq_some.mp isSize⟩
    · simp [cut]
    · simp [cut]
  · rintro ⟨⟨word, first, isKind⟩, second, named, ⟨size, third, spells⟩, protection, datestamp⟩
    -- There are as many fields as were found.
    obtain ⟨rest, cut⟩ : ∃ rest, line.fields '\t' = word :: entry.name :: size :: rest := by
      rcases all : line.fields '\t' with _ | ⟨a, _ | ⟨b, _ | ⟨c, rest⟩⟩⟩
      all_goals simp_all
    have protection' : entry.protection = rest[0]?.getD [] := by rw [protection, cut]; rfl
    have datestamp' : entry.datestamp = rest[1]?.getD [] := by rw [datestamp, cut]; rfl
    rw [parse_of_fields cut isKind named (Decimal.uint64?_eq_some.mpr spells), ← protection',
      ← datestamp']

/-- A line that tells an entry tells enough of it. -/
theorem Describes.suffices (describes : entry.Describes line) : Suffices line := by
  -- The parts that a line has to have are parts of what it tells.
  obtain ⟨word, first, isKind⟩ := describes.kind
  obtain ⟨size, third, spells⟩ := describes.size
  exact {
    kind := ⟨word, entry.kind, first, isKind⟩
    name := ⟨entry.name, describes.name, describes.named⟩
    size := ⟨size, entry.size.toNat, third, spells, entry.size.toNat_lt⟩ }

/-- A line is an entry exactly if it tells enough of one. -/
theorem exists_parse : (∃ entry, parse line = .ok entry) ↔ Suffices line := by
  -- One way by what was parsed, the other by the entry that the parts make up.
  constructor
  · rintro ⟨entry, parsed⟩
    exact (parse_eq_ok.mp parsed).suffices
  · rintro ⟨⟨word, kind, first, isKind⟩, ⟨name, second, named⟩, size, n, third, spells, small⟩
    have isSize : Decimal.Spells (UInt64.ofNat n).toNat size := by
      rwa [UInt64.toNat_ofNat_of_lt' small]
    exact ⟨⟨kind, name, .ofNat n, _, _⟩, parse_eq_ok.mpr
      ⟨⟨word, first, isKind⟩, second, named, ⟨size, third, isSize⟩, rfl, rfl⟩⟩

/-- A line that does not is reported whole, whatever it lacks. -/
theorem parse_of_not_suffices (lacks : ¬Suffices line) :
    parse line = .error (.malformedEntry line) := by
  -- A success would show that nothing was lacking, and every failure is the same.
  cases parsed : parse line with
  | ok entry => exact absurd (exists_parse.mp ⟨entry, parsed⟩) lacks
  | error fault =>
    unfold parse at parsed
    simp only at parsed
    split at parsed <;> cases parsed
    rfl

/-- A listing is read if each of its lines tells enough. -/
theorem parseAll_eq_ok {lines : List Text} {entries : List DirEntry} :
    parseAll lines = .ok entries ↔ List.Forall₂ Describes entries lines := by
  -- By induction on the lines, since entries and lines correspond one by one.
  unfold parseAll
  induction lines generalizing entries with
  | nil =>
    rw [List.forall₂_nil_right_iff]
    constructor
    · intro done
      exact (Except.ok.inj done).symm
    · rintro rfl
      rfl
  | cons line lines ih =>
    rw [List.forall₂_cons_right_iff, Except.mapM_cons_eq_ok]
    simp only [ih, parse_eq_ok]

/-- The first line that does not is reported, and no entry is. -/
theorem parseAll_of_not_suffices {front back : List Text}
    (before : ∀ line ∈ front, Suffices line) (lacks : ¬Suffices line) :
    parseAll (front ++ line :: back) = .error (.malformedEntry line) :=
  -- The parser stops at the first of them.
  Except.mapM_append_cons_eq_error (fun line member => exists_parse.mpr (before line member))
    (parse_of_not_suffices lacks)

end Lines

/-- The texts of an entry. -/
def texts (entry : DirEntry) : List Text :=
  [entry.name, entry.protection, entry.datestamp]

/-- An entry and the row of a listing that is written for it. -/
structure Row where
  entry : DirEntry
  /-- The name of the kind in letters of any case. -/
  word : Text
  /-- Properties after the date. -/
  further : List Text
  names : word.map Char.toUpper = entry.kind.capitals
  named : entry.name ≠ []
  apart : ∀ text ∈ entry.texts, '\t' ∉ text
  oneLine : ∀ text ∈ entry.texts ++ further, '\n' ∉ text ∧ '\r' ∉ text

namespace Row

variable (row : Row)

/-- Whether all texts of a row have bytes. -/
def Encodable (encoding : Encoding) : Prop :=
  ∀ text ∈ row.entry.texts ++ row.further, ∃ raw, encoding.encode text = .ok raw

/-- The properties of an entry in a row. -/
def parts : List Text :=
  [row.word, row.entry.name, Decimal.ofNat row.entry.size.toNat, row.entry.protection,
    row.entry.datestamp]

/-- The row as a line. -/
def line : Text :=
  Text.join ['\t'] (row.parts ++ row.further)

/-- Neither the word nor the size of a row holds a control character. -/
theorem no_control {c : Char} (control : c.toNat < 0x20) :
    c ∉ row.word ∧ c ∉ Decimal.ofNat row.entry.size.toNat := by
  -- The word is visible, and digits are as well.
  constructor
  · intro member
    have := EntryKind.visible_of_toUpper row.names c member
    omega
  · intro member
    have := Char.toNat_of_isDigit (Decimal.isDigit_of_mem_ofNat member)
    omega

/-- No property of an entry is cut. -/
theorem tab_not_mem : ∀ part ∈ row.parts, '\t' ∉ part := by
  -- The tab is a control character, and the texts of a row hold none.
  have free := @no_control row '\t' (by decide)
  have apart := row.apart
  simp only [texts, List.forall_mem_cons] at apart
  simp only [parts, List.forall_mem_cons]
  exact ⟨free.1, apart.1, free.2, apart.2.1, apart.2.2.1, nofun⟩

/-- A row tells its entry. -/
theorem describes : row.entry.Describes row.line := by
  -- What stands behind the tabs may be empty, so that more may be cut from it than was put in.
  obtain ⟨more, cut⟩ := Text.exists_fields_join (List.cons_ne_nil _ _) row.tab_not_mem row.further
  have cut : row.line.fields '\t' = row.parts ++ more := cut
  constructor
  · exact ⟨row.word, by simp [cut, parts], EntryKind.parse?_of_toUpper row.names⟩
  · simp [cut, parts]
  · exact row.named
  · exact ⟨_, by simp [cut, parts], Decimal.spells_ofNat _⟩
  · simp [cut, parts]
  · simp [cut, parts]

/-- What is in a row is a tab, of the word or the size, or in one of its texts. -/
theorem mem_of_mem_line {c : Char} (member : c ∈ row.line) :
    c = '\t' ∨ c ∈ row.word ∨ c ∈ Decimal.ofNat row.entry.size.toNat ∨
      ∃ text ∈ row.entry.texts ++ row.further, c ∈ text := by
  -- The line is its parts with tabs between them.
  refine (Text.mem_of_mem_join member).imp id ?_
  rintro ⟨part, isPart, within⟩
  simp only [parts, List.cons_append, List.nil_append, List.mem_cons] at isPart
  rcases isPart with rfl | rfl | rfl | later
  · exact .inl within
  · exact .inr (.inr ⟨_, by simp [texts], within⟩)
  · exact .inr (.inl within)
  · exact .inr (.inr ⟨part, by simpa [texts] using .inr later, within⟩)

/-- A row is one line. -/
theorem break_not_mem {c : Char} (isBreak : c = '\n' ∨ c = '\r') : c ∉ row.line := by
  -- Neither line break is a tab, so that it would have to be in one of the texts, which hold none.
  intro member
  have free : c ∉ row.word ∧ c ∉ Decimal.ofNat row.entry.size.toNat :=
    row.no_control (by rcases isBreak with rfl | rfl <;> decide)
  rcases row.mem_of_mem_line member with rfl | inWord | inSize | ⟨text, isText, within⟩
  · rcases isBreak with isBreak | isBreak <;> cases isBreak
  · exact free.1 inWord
  · exact free.2 inSize
  · rcases isBreak with rfl | rfl
    · exact (row.oneLine text isText).1 within
    · exact (row.oneLine text isText).2 within

/-- A row whose texts have bytes has bytes. -/
theorem exists_encode {encoding : Encoding} (encodable : row.Encodable encoding) :
    ∃ raw, encoding.encode row.line = .ok raw := by
  refine Encoding.exists_encode_eq_ok.mpr fun latin1 c member => ?_
  -- All that is added to the texts is plain.
  rcases row.mem_of_mem_line member with rfl | inWord | inSize | ⟨text, isText, within⟩
  · decide
  · have := EntryKind.visible_of_toUpper row.names c inWord
    omega
  · have := Char.toNat_of_isDigit (Decimal.isDigit_of_mem_ofNat inSize)
    omega
  · exact Encoding.exists_encode_eq_ok.mp (encodable text isText) latin1 c within

/-- A row arrives as it is. -/
theorem safe : Line.Safe row.line := by
  -- It has no line feed anywhere and no carriage return at its end.
  constructor
  · exact row.break_not_mem (.inl rfl)
  · intro last
    exact row.break_not_mem (.inr rfl) (List.mem_of_getLast? last)

end Row

/-- A listing of rows is read as their entries. -/
theorem parseAll_rows (rows : List Row) :
    parseAll (rows.map Row.line) = .ok (rows.map Row.entry) := by
  -- Row by row, each tells its entry.
  rw [parseAll_eq_ok, List.forall₂_map_left_iff, List.forall₂_map_right_iff, List.forall₂_same]
  exact fun row _ => row.describes

end DirEntry
end AmigaRemote
