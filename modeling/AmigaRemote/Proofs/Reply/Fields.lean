import AmigaRemote.Proofs.Except
import AmigaRemote.Proofs.Text.Words
import AmigaRemote.Reply.FieldLines
import Mathlib.Data.List.Nodup

/-! Fields by key: what is found under a key, and that nothing else tells two sets of fields apart.
Of lines that each name a field, the last one that names a key tells its value. -/

namespace AmigaRemote.Fields

variable {key other value : Text}

/-- What is found is the value of the first entry with the key. -/
theorem lookup_cons {entry : Text × Text} {rest : List (Text × Text)} :
    (entry :: rest).lookup key = if key = entry.1 then some entry.2 else rest.lookup key := by
  -- The library compares the keys as booleans.
  rw [List.lookup_cons]
  by_cases own : key = entry.1
  · simp [own]
  · simp [beq_eq_false_iff_ne.mpr own, own]

/-- An insertion changes what is found under its own key. -/
theorem lookup_insertEntry {entries : List (Text × Text)} :
    (insertEntry key value entries).lookup other =
      if other = key then some value else entries.lookup other := by
  induction entries with
  | nil => exact lookup_cons
  | cons entry rest ih =>
    simp only [insertEntry]
    split
    · exact lookup_cons
    · split
      · -- The first entry stays, and it has another key than the new one.
        rename_i before
        have differ : entry.1 ≠ key := fun same => absurd (same ▸ before) (List.lt_irrefl key)
        simp only [lookup_cons, ih]
        grind
      · rename_i notBefore notBehind
        have same : entry.1 = key :=
          List.le_antisymm (List.not_lt.mp notBefore) (List.not_lt.mp notBehind)
        simp only [lookup_cons, same]
        grind

/-- Without the entries of a key the others are found as before. -/
theorem lookup_filter_ne {entries : List (Text × Text)} :
    (entries.filter fun entry => entry.1 ≠ key).lookup other =
      if other = key then none else entries.lookup other := by
  -- By induction on the entries: one that is kept, or one that goes.
  induction entries with
  | nil => simp
  | cons entry rest ih =>
    rw [List.filter_cons, lookup_cons]
    by_cases kept : entry.1 = key
    · simp only [kept, ne_eq, not_true_eq_false, decide_false, Bool.false_eq_true, if_false, ih]
      grind
    · simp only [kept, ne_eq, not_false_eq_true, decide_true, if_true, lookup_cons, ih]
      grind

/-- Nothing is found where nothing is. -/
@[simp] theorem get?_empty : empty.get? key = none :=
  -- There is no entry to look at.
  rfl

/-- What was set is found, and everything else as before. -/
@[simp] theorem get?_insert {fields : Fields} :
    (fields.insert key value).get? other = if other = key then some value else fields.get? other :=
  -- The entry is put where its key belongs, and its place does not matter to what is found.
  lookup_insertEntry

/-- What was taken away is not found, and everything else as before. -/
@[simp] theorem get?_erase {fields : Fields} :
    (fields.erase key).get? other = if other = key then none else fields.get? other :=
  -- All entries of the key are filtered out.
  lookup_filter_ne

/-- None of the keys that were taken away is found, and everything else as before. -/
theorem get?_foldl_erase {fields : Fields} {keys : List Text} :
    (keys.foldl erase fields).get? key = if key ∈ keys then none else fields.get? key := by
  -- By induction on the keys, with the fields that are left so far left open.
  induction keys generalizing fields with
  | nil => simp
  | cons first keys ih =>
    rw [List.foldl_cons, ih, get?_erase]
    by_cases same : key = first <;> simp [same]

/-- In entries with ascending keys each entry is found under its key. -/
theorem mem_iff_lookup {entries : List (Text × Text)}
    (ascending : entries.Pairwise fun a b => a.1 < b.1) :
    (key, value) ∈ entries ↔ entries.lookup key = some value := by
  induction entries with
  | nil => simp
  | cons entry rest ih =>
    obtain ⟨first, old⟩ := entry
    obtain ⟨below, restAscends⟩ := List.pairwise_cons.mp ascending
    rw [List.mem_cons, lookup_cons, ih restAscends]
    by_cases same : key = first
    · -- The key of the first entry does not occur again.
      subst same
      have absent : rest.lookup key ≠ some value := by
        intro found
        exact absurd (below _ ((ih restAscends).mpr found)) (List.lt_irrefl key)
      simp [absent, eq_comm]
    · simp [same]

/-- The entries are what is found. -/
theorem mem_entries {fields : Fields} :
    (key, value) ∈ fields.entries ↔ fields.get? key = some value :=
  -- The keys ascend, so that none of them hides another.
  mem_iff_lookup fields.ascending

/-- No entry occurs twice. -/
theorem nodup_entries (fields : Fields) : fields.entries.Nodup :=
  -- Of two entries the first has the smaller key, and no key is smaller than itself.
  fields.ascending.imp fun below same => absurd (same ▸ below) (List.lt_irrefl _)

/-- What is found occurs once among the entries, and nothing else occurs. -/
theorem count_entries {fields : Fields} :
    fields.entries.count (key, value) = if fields.get? key = some value then 1 else 0 := by
  -- An entry occurs once or not at all.
  rw [fields.nodup_entries.count]
  simp only [mem_entries]

/-- Fields are told apart by what is found in them alone. -/
theorem ext_get? {a b : Fields} (same : ∀ key, a.get? key = b.get? key) : a = b := by
  have members : ∀ entry, entry ∈ a.entries ↔ entry ∈ b.entries := by
    rintro ⟨key, value⟩
    rw [mem_entries, mem_entries, same]
  have permuted : a.entries.Perm b.entries :=
    (List.perm_ext_iff_of_nodup a.nodup_entries b.nodup_entries).mpr members
  -- There is one order in which the keys ascend.
  have entries : a.entries = b.entries :=
    permuted.eq_of_pairwise (fun x y _ _ before behind =>
      absurd (List.lt_trans before behind) (List.lt_irrefl _)) a.ascending b.ascending
  cases a
  cases b
  cases entries
  rfl

/-- The key that a line names: what stands before its first equals sign, in small letters and
without white space around it. -/
def keyOf (line : Text) : Text :=
  (Text.trim (line.takeWhile (· ≠ '='))).toSmall

/-- The value that a line gives: all that stands behind its first equals sign. -/
def valueOf (line : Text) : Text :=
  (line.dropWhile (· ≠ '=')).tail

/-- The value that the last line with a key gives it. -/
def lastValue? (lines : List Text) (key : Text) : Option Text :=
  (lines.reverse.find? fun line => keyOf line = key).map valueOf

/-- A line with an equals sign names a field. -/
theorem parseLine_of_mem {line : Text} (named : '=' ∈ line) :
    parseLine line = .ok (keyOf line, valueOf line) := by
  -- The line is cut at its first equals sign, so that the key has none.
  obtain ⟨before, after, rfl, free⟩ := List.eq_append_cons_of_mem named
  have passed := Text.ne_of_free free
  unfold parseLine keyOf valueOf
  rw [Text.splitFirst?_append free, List.takeWhile_append_of_pos passed,
    List.dropWhile_append_of_pos passed]
  simp

/-- A line without an equals sign names none. -/
theorem parseLine_of_free {line : Text} (free : '=' ∉ line) :
    parseLine line = .error (.noField line) := by
  -- Without the sign there is nothing to cut at.
  unfold parseLine
  rw [Text.splitFirst?_of_free free]

/-- Of values that are set one after the other, from the right, the first one is found. -/
theorem get?_foldr_insert {lines : List Text} :
    (lines.foldr (fun line fields => fields.insert (keyOf line) (valueOf line)) empty).get? key =
      (lines.find? fun line => keyOf line = key).map valueOf := by
  -- By induction on the lines: the line in front is set last and overwrites what stands behind it.
  induction lines with
  | nil => exact get?_empty
  | cons line lines ih =>
    rw [List.foldr_cons, get?_insert, ih, List.find?_cons]
    by_cases own : keyOf line = key
    · simp [own]
    · simp [own, Ne.symm own]

/-- Lines that each name a field are the fields in which the last value of each key is found. -/
theorem parseLines_of_named {lines : List Text} (named : ∀ line ∈ lines, '=' ∈ line) :
    ∃ fields, parseLines lines = .ok fields ∧ ∀ key, fields.get? key = lastValue? lines key := by
  have entries : lines.mapM parseLine = .ok (lines.map fun line => (keyOf line, valueOf line)) :=
    Except.mapM_eq_ok_map fun line member => parseLine_of_mem (named line member)
  refine ⟨_, Except.bind_eq_ok.mpr ⟨_, entries, rfl⟩, fun key => ?_⟩
  -- To set values from the left is to set the last of them first, from the right.
  rw [List.foldl_map, List.foldl_eq_foldr_reverse]
  exact get?_foldr_insert

/-- The first line that names no field is reported, whatever the other lines are. -/
theorem parseLines_of_free {front back : List Text} {line : Text}
    (before : ∀ line ∈ front, '=' ∈ line) (free : '=' ∉ line) :
    parseLines (front ++ line :: back) = .error (.noField line) :=
  -- The lines are parsed in turn, so that those in front are let pass.
  Except.bind_eq_error.mpr (.inl (Except.mapM_append_cons_eq_error
    (fun line member => ⟨_, parseLine_of_mem (before line member)⟩) (parseLine_of_free free)))

/-- Where no key occurs twice, each line tells the value of its key. -/
theorem lastValue?_of_distinct {lines : List Text} (distinct : (lines.map keyOf).Nodup) :
    lastValue? lines key = some value ↔
      ∃ line ∈ lines, keyOf line = key ∧ valueOf line = value := by
  simp only [lastValue?, Option.map_eq_some_iff]
  constructor
  · rintro ⟨line, found, gives⟩
    have member := List.mem_reverse.mp (List.mem_of_find?_eq_some found)
    exact ⟨line, member, by simpa using List.find?_some found, gives⟩
  · rintro ⟨line, member, names, gives⟩
    -- Some line with the key is found, and there is only one.
    have some : (lines.reverse.find? fun line => keyOf line = key).isSome = true := by
      rw [List.find?_isSome]
      exact ⟨line, List.mem_reverse.mpr member, decide_eq_true names⟩
    obtain ⟨found, isFound⟩ := Option.isSome_iff_exists.mp some
    have foundNames : keyOf found = key := by simpa using List.find?_some isFound
    have foundMember := List.mem_reverse.mp (List.mem_of_find?_eq_some isFound)
    have same : found = line :=
      List.inj_on_of_nodup_map distinct foundMember member (foundNames.trans names.symm)
    exact ⟨found, isFound, same ▸ gives⟩

/-- Where no key occurs twice, the order of the lines does not matter. -/
theorem lastValue?_perm {lines permuted : List Text} (perm : permuted.Perm lines)
    (distinct : (lines.map keyOf).Nodup) : lastValue? permuted = lastValue? lines := by
  -- The order plays no part in what lines without a repeated key tell.
  funext key
  have distinct' : (permuted.map keyOf).Nodup := (perm.map keyOf).nodup_iff.mpr distinct
  ext value
  rw [lastValue?_of_distinct distinct', lastValue?_of_distinct distinct]
  simp only [perm.mem_iff]

end AmigaRemote.Fields
