import AmigaRemote.Text.Basic

/-! Values by key. Keys ascend and none occurs twice, so a map is known by what it holds. -/

namespace AmigaRemote

/-- Texts by key, in ascending order of the keys. -/
structure Fields where
  entries : List (Text × Text)
  ascending : entries.Pairwise fun a b => a.1 < b.1

namespace Fields

/-- No values. -/
def empty : Fields :=
  ⟨[], .nil⟩

/-- Puts a value in its place in ascending entries. An older value of the key gives way. -/
def insertEntry (key value : Text) : List (Text × Text) → List (Text × Text)
  | [] => [(key, value)]
  | entry :: rest =>
    -- Entries ascend, so a key smaller than this one occurs nowhere behind it.
    if key < entry.1 then (key, value) :: entry :: rest
    else if entry.1 < key then entry :: insertEntry key value rest
    else (key, value) :: rest

/-- Every entry after an insertion was there before or has the inserted key. -/
theorem mem_insertEntry {key value : Text} {entries : List (Text × Text)} {entry : Text × Text}
    (member : entry ∈ insertEntry key value entries) : entry ∈ entries ∨ entry.1 = key := by
  -- The new entry stands before, behind or in place of the first one.
  induction entries with
  | nil => exact .inr (by simp [List.mem_singleton.mp member])
  | cons head rest ih =>
    simp only [insertEntry] at member
    split at member
    · rcases List.mem_cons.mp member with same | old
      · exact .inr (by rw [same])
      · exact .inl old
    · split at member
      · rcases List.mem_cons.mp member with same | later
        · exact .inl (by simp [same])
        · rcases ih later with old | new
          · exact .inl (by simp [old])
          · exact .inr new
      · rcases List.mem_cons.mp member with same | old
        · exact .inr (by rw [same])
        · exact .inl (by simp [old])

/-- Insertion keeps the keys ascending. -/
theorem ascending_insertEntry {key value : Text} {entries : List (Text × Text)}
    (ascending : entries.Pairwise fun a b => a.1 < b.1) :
    (insertEntry key value entries).Pairwise fun a b => a.1 < b.1 := by
  induction entries with
  | nil => simp [insertEntry]
  | cons head rest ih =>
    obtain ⟨below, restAscends⟩ := List.pairwise_cons.mp ascending
    simp only [insertEntry]
    split
    · rename_i before
      -- The new key stands before the first one, hence before all.
      refine .cons ?_ ascending
      intro entry member
      rcases List.mem_cons.mp member with same | later
      · exact same ▸ before
      · exact List.lt_trans before (below entry later)
    · split
      · rename_i behind
        refine .cons ?_ (ih restAscends)
        intro entry member
        rcases mem_insertEntry member with old | new
        · exact below entry old
        · exact new ▸ behind
      · rename_i notBefore notBehind
        -- Neither before nor behind: it is the same key.
        have same : head.1 = key :=
          List.le_antisymm (List.not_lt.mp notBefore) (List.not_lt.mp notBehind)
        exact .cons (fun entry member => same ▸ below entry member) restAscends

/-- The map with a value set. -/
def insert (fields : Fields) (key value : Text) : Fields :=
  ⟨insertEntry key value fields.entries, ascending_insertEntry fields.ascending⟩

/-- The value of a key. -/
def get? (fields : Fields) (key : Text) : Option Text :=
  fields.entries.lookup key

/-- The map without a key. -/
def erase (fields : Fields) (key : Text) : Fields :=
  ⟨fields.entries.filter fun entry => entry.1 ≠ key, fields.ascending.filter _⟩

end Fields

end AmigaRemote
