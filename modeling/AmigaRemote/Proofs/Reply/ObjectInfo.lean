import AmigaRemote.Proofs.Reply.Fields
import AmigaRemote.Proofs.Text.Decimal
import AmigaRemote.Reply.ObjectInfo

/-! What is known about an object is what the fields of its reply tell: nothing is lost, nothing is
made up, and the order of the lines does not matter. -/

namespace AmigaRemote.ObjectInfo

open Fields (lastValue? keyOf)

/-- The keys of the fields with a place of their own. -/
def ownKeys : List Text :=
  ["type".toList, "name".toList, "size".toList, "protection".toList, "datestamp".toList,
    "comment".toList]

/-- Values of fields that tell enough about an object. -/
structure Suffices (value? : Text → Option Text) : Prop where
  kind : ∃ text kind, value? "type".toList = some text ∧ EntryKind.parse? text = some kind
  name : ∃ name, value? "name".toList = some name
  size : ∃ text size, value? "size".toList = some text ∧ Decimal.Spells size text ∧
    size < UInt64.size

/-- What is known about an object whose fields have these values. -/
structure Describes (info : ObjectInfo) (value? : Text → Option Text) : Prop where
  kind : ∃ text, value? "type".toList = some text ∧ EntryKind.parse? text = some info.kind
  name : value? "name".toList = some info.name
  size : ∃ text, value? "size".toList = some text ∧ Decimal.Spells info.size.toNat text
  protection : info.protection = value? "protection".toList
  datestamp : info.datestamp = value? "datestamp".toList
  comment : info.comment = (value? "comment".toList).filter (· ≠ [])
  /-- Every other field is an extra, once, and there are no other extras. -/
  extra : ∀ key value, info.extra.entries.count (key, value) =
    if value? key = some value ∧ key ∉ ownKeys then 1 else 0

/-- A required field is taken out exactly if it is there. -/
theorem takeField_eq_ok {fields rest : Fields} {key value : Text} :
    takeField fields key = .ok (value, rest) ↔
      fields.get? key = some value ∧ rest = fields.erase key := by
  -- Without the field there is nothing to take.
  unfold takeField
  cases fields.get? key with
  | none => simp
  | some found => simp [eq_comm]

/-- What was made of fields is what they tell. -/
theorem describes_of_ofFields {fields : Fields} {info : ObjectInfo}
    (made : ofFields fields = .ok info) : info.Describes fields.get? := by
  obtain ⟨⟨kindText, _⟩, took, made⟩ := Except.bind_eq_ok.mp made
  obtain ⟨typed, rfl⟩ := takeField_eq_ok.mp took
  cases isKind : EntryKind.parse? kindText with
  | none =>
    simp only [isKind] at made
    cases made
  | some kind =>
    simp only [isKind] at made
    obtain ⟨_, same, made⟩ := Except.bind_eq_ok.mp made
    cases same
    obtain ⟨⟨name, _⟩, took, made⟩ := Except.bind_eq_ok.mp made
    obtain ⟨named, rfl⟩ := takeField_eq_ok.mp took
    obtain ⟨⟨sizeText, _⟩, took, made⟩ := Except.bind_eq_ok.mp made
    obtain ⟨sized, rfl⟩ := takeField_eq_ok.mp took
    cases isSize : Decimal.uint64? sizeText with
    | none =>
      simp only [isSize] at made
      cases made
    | some size =>
      simp only [isSize] at made
      obtain ⟨_, same, made⟩ := Except.bind_eq_ok.mp made
      cases same
      cases made
      -- The other fields are found although the required ones were taken out before.
      simp only [Fields.get?_erase] at named sized
      constructor
      · exact ⟨kindText, typed, isKind⟩
      · simpa using named
      · exact ⟨sizeText, by simpa using sized, Decimal.uint64?_eq_some.mp isSize⟩
      · simp
      · simp
      · simp
      · intro key value
        rw [Fields.count_entries]
        have found := @Fields.get?_foldl_erase key fields ownKeys
        -- What is left over is what is left of the fields without all keys with a place.
        change (if (ownKeys.foldl Fields.erase fields).get? key = some value then 1 else 0) = _
        rw [found]
        by_cases own : key ∈ ownKeys <;> simp [own]

/-- Fields that suffice tell about an object. -/
theorem exists_ofFields {fields : Fields} (enough : Suffices fields.get?) :
    ∃ info, ofFields fields = .ok info := by
  obtain ⟨⟨kindText, kind, typed, isKind⟩, ⟨name, named⟩, sizeText, n, sized, spells, small⟩ :=
    enough
  have isSize : Decimal.uint64? sizeText = some (.ofNat n) := by
    rw [Decimal.uint64?_eq_some, UInt64.toNat_ofNat_of_lt' small]
    exact spells
  have first := takeField_eq_ok.mpr ⟨typed, rfl⟩
  -- The required fields do not stand in each other's way.
  have second : takeField (fields.erase "type".toList) "name".toList = .ok (name, _) :=
    takeField_eq_ok.mpr ⟨by simpa using named, rfl⟩
  have third : takeField ((fields.erase "type".toList).erase "name".toList) "size".toList
      = .ok (sizeText, _) :=
    takeField_eq_ok.mpr ⟨by simpa using sized, rfl⟩
  simp only [ofFields, first, isKind, second, third, isSize, bind, Except.bind]
  exact ⟨_, rfl⟩

/-- Whatever describes an object suffices. -/
theorem Describes.suffices {info : ObjectInfo} {value? : Text → Option Text}
    (describes : info.Describes value?) : Suffices value? := by
  -- The kind and the size are told by texts that parse.
  obtain ⟨kindText, typed, isKind⟩ := describes.kind
  obtain ⟨sizeText, sized, spells⟩ := describes.size
  exact {
    kind := ⟨kindText, info.kind, typed, isKind⟩
    name := ⟨info.name, describes.name⟩
    size := ⟨sizeText, info.size.toNat, sized, spells, info.size.toNat_lt⟩ }

section Named

variable {lines : List Text} (named : ∀ line ∈ lines, '=' ∈ line)
include named

/-- Lines that each name a field are read as the fields with their last values. -/
theorem exists_fields_of_named :
    ∃ fields, parse lines = ofFields fields ∧ fields.get? = lastValue? lines := by
  -- The fields are collected from the right, and so the last value is the one that is found.
  obtain ⟨fields, parsed, found⟩ := Fields.parseLines_of_named named
  refine ⟨fields, ?_, funext found⟩
  unfold parse
  rw [parsed]
  rfl

/-- An object is known exactly if the last values suffice. -/
theorem exists_parse : (∃ info, parse lines = .ok info) ↔ Suffices (lastValue? lines) := by
  -- The question is one about the fields, which are what the last values are.
  obtain ⟨fields, read, found⟩ := exists_fields_of_named named
  rw [read, ← found]
  constructor
  · rintro ⟨info, made⟩
    exact (describes_of_ofFields made).suffices
  · exact exists_ofFields

/-- What is known about an object is what the last values tell. -/
theorem describes_of_parse {info : ObjectInfo} (parsed : parse lines = .ok info) :
    info.Describes (lastValue? lines) := by
  -- As above, the fields stand in for the lines.
  obtain ⟨fields, read, found⟩ := exists_fields_of_named named
  rw [← found]
  exact describes_of_ofFields (read ▸ parsed)

/-- Lines with the same last values tell the same, understood or not. -/
theorem parse_eq_of_lastValue? {others : List Text} (named' : ∀ line ∈ others, '=' ∈ line)
    (same : lastValue? others = lastValue? lines) : parse others = parse lines := by
  obtain ⟨fields, read, found⟩ := exists_fields_of_named named
  obtain ⟨fields', read', found'⟩ := exists_fields_of_named named'
  -- Fields are known by what is found in them.
  have equal : fields' = fields :=
    Fields.ext_get? fun key => congrFun (found'.trans (same.trans found.symm)) key
  rw [read, read', equal]

end Named

/-- The first line that names no field is complained of, whatever the other lines are. -/
theorem parse_of_free {front back : List Text} {line : Text}
    (before : ∀ line ∈ front, '=' ∈ line) (free : '=' ∉ line) :
    parse (front ++ line :: back) = .error (.noField line) :=
  -- The fields are collected first, and fail at that line.
  Except.bind_eq_error.mpr (.inl (Fields.parseLines_of_free before free))

/-- What is known about an object is what the last values of its fields tell. Of lines that each
name a field,

- an object is known exactly if a kind, a name and a size are among the last values,
- then everything known is a last value, and every last value is known in one place,
- nothing else matters: not the values before the last ones, not how a key is written, and not the
  order of lines with different keys.

Where a line names no field, the first such line is complained of. -/
theorem parse_faithful (lines : List Text) :
    ((∀ line ∈ lines, '=' ∈ line) →
      ((∃ info, parse lines = .ok info) ↔ Suffices (lastValue? lines)) ∧
      (∀ info, parse lines = .ok info → info.Describes (lastValue? lines)) ∧
      (∀ others : List Text, (∀ line ∈ others, '=' ∈ line) →
        lastValue? others = lastValue? lines → parse others = parse lines) ∧
      (∀ permuted : List Text, permuted.Perm lines → (lines.map keyOf).Nodup →
        parse permuted = parse lines)) ∧
    ((∃ line ∈ lines, '=' ∉ line) →
      ∃ front line back, lines = front ++ line :: back ∧ (∀ line ∈ front, '=' ∈ line) ∧
        '=' ∉ line ∧ parse lines = .error (.noField line)) := by
  constructor
  · intro named
    refine ⟨exists_parse named, fun info => describes_of_parse named, fun others named' =>
      parse_eq_of_lastValue? named named', fun permuted perm distinct => ?_⟩
    -- With different keys every line tells a last value, in any order.
    have named' : ∀ line ∈ permuted, '=' ∈ line :=
      fun line member => named line (perm.mem_iff.mp member)
    exact parse_eq_of_lastValue? named named' (Fields.lastValue?_perm perm distinct)
  · intro unnamed
    obtain ⟨front, line, back, rfl, before, free⟩ := exists_first_not unnamed
    exact ⟨front, line, back, rfl, before, free, parse_of_free before free⟩

/-- The lines of a reply in which a key is written twice, a name holds an equals sign and the
comment is empty. -/
def sampleLines : List Text :=
  [" TYPE =unheard of", "Name=a=b", "type=File", "size=+007", "comment=", "Owner= me"].map
    String.toList

/-- The last type counts, the name is kept whole, no comment is left and the owner is an extra. -/
theorem parse_faithful_sampleLines :
    (∀ line ∈ sampleLines, '=' ∈ line) ∧
    ∃ info, parse sampleLines = .ok info ∧ info.kind = .file ∧ info.name = "a=b".toList ∧
      info.comment = none ∧ info.extra.entries.count ("owner".toList, " me".toList) = 1 ∧
      info.extra.entries.count ("type".toList, "unheard of".toList) = 0 := by
  -- The hypothesis holds, so that the object is known if the last values suffice.
  have named : ∀ line ∈ sampleLines, '=' ∈ line := by decide
  obtain ⟨known, describes, _⟩ := (parse_faithful sampleLines).1 named
  have seven : Decimal.Spells 7 "+007".toList :=
    ⟨"007".toList, .inr rfl, by decide, by simp, by decide⟩
  have enough : Suffices (lastValue? sampleLines) := {
    kind := ⟨"File".toList, .file, by decide, by decide⟩
    name := ⟨"a=b".toList, by decide⟩
    size := ⟨"+007".toList, 7, by decide, seven, by decide⟩ }
  obtain ⟨info, parsed⟩ := known.mpr enough
  -- What is known is read off the description, one property after the other.
  obtain ⟨⟨kindText, typed, isKind⟩, named', _, _, _, comment, extra⟩ := describes info parsed
  refine ⟨named, info, parsed, ?_, ?_, ?_, ?_, ?_⟩
  · have last : lastValue? sampleLines "type".toList = some "File".toList := by decide
    cases typed.symm.trans last
    exact (Option.some.inj isKind).symm
  · have last : lastValue? sampleLines "name".toList = some "a=b".toList := by decide
    exact Option.some.inj (named'.symm.trans last)
  · rw [comment]
    decide
  · rw [extra]
    decide
  · rw [extra]
    decide

end AmigaRemote.ObjectInfo
