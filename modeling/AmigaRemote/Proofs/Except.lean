/-! Sequences of computations that may fail: what a success says about each part, and where a
failure comes from. -/

namespace AmigaRemote

/-- Where something lacks a property, something is the first to lack it. -/
theorem exists_first_not {α : Type} {property : α → Prop} {as : List α}
    (lacks : ∃ a ∈ as, ¬property a) :
    ∃ front a back, as = front ++ a :: back ∧ (∀ b ∈ front, property b) ∧ ¬property a := by
  -- By induction on the list: the head lacks the property, or the first to lack it is in the tail.
  induction as with
  | nil =>
    obtain ⟨_, member, _⟩ := lacks
    cases member
  | cons a as ih =>
    by_cases first : property a
    · have later : ∃ b ∈ as, ¬property b := by
        obtain ⟨b, member, without⟩ := lacks
        rcases List.mem_cons.mp member with rfl | member
        · exact absurd first without
        · exact ⟨b, member, without⟩
      obtain ⟨front, b, back, rfl, before, without⟩ := ih later
      exact ⟨a :: front, b, back, rfl, List.forall_mem_cons.mpr ⟨first, before⟩, without⟩
    · exact ⟨[], a, as, rfl, List.forall_mem_nil _, first⟩

namespace Except

variable {ε α β : Type}

/-- A sequence succeeds exactly if both of its parts do. -/
theorem bind_eq_ok {x : Except ε α} {next : α → Except ε β} {b : β} :
    x >>= next = .ok b ↔ ∃ a, x = .ok a ∧ next a = .ok b := by
  -- A failure of the first part is one of the whole.
  cases x with
  | error e => simp [Bind.bind, Except.bind]
  | ok a => simp [Bind.bind, Except.bind]

/-- A sequence fails exactly if its first part fails, or the second does after the first. -/
theorem bind_eq_error {x : Except ε α} {next : α → Except ε β} {e : ε} :
    x >>= next = .error e ↔ x = .error e ∨ ∃ a, x = .ok a ∧ next a = .error e := by
  -- The other part is reached after a success only.
  cases x with
  | error e => simp [Bind.bind, Except.bind]
  | ok a => simp [Bind.bind, Except.bind]

/-- The results of several computations are those of the first and of the others. -/
theorem mapM_cons_eq_ok {f : α → Except ε β} {a : α} {as : List α} {bs : List β} :
    (a :: as).mapM f = .ok bs ↔
      ∃ b others, f a = .ok b ∧ as.mapM f = .ok others ∧ bs = b :: others := by
  -- The sequence is opened once, and the two directions reorder what is found.
  rw [List.mapM_cons]
  simp only [bind_eq_ok]
  constructor
  · rintro ⟨b, first, others, later, same⟩
    exact ⟨b, others, first, later, (Except.ok.inj same).symm⟩
  · rintro ⟨b, others, first, later, rfl⟩
    exact ⟨b, first, others, later, rfl⟩

/-- Several computations succeed exactly if each of them does. -/
theorem exists_mapM_eq_ok {f : α → Except ε β} {as : List α} :
    (∃ bs, as.mapM f = .ok bs) ↔ ∀ a ∈ as, ∃ b, f a = .ok b := by
  -- By induction on the list, one computation at a time.
  induction as with
  | nil => exact ⟨fun _ => List.forall_mem_nil _, fun _ => ⟨[], rfl⟩⟩
  | cons a as ih =>
    rw [List.forall_mem_cons, ← ih]
    constructor
    · rintro ⟨_, all⟩
      obtain ⟨b, others, first, later, _⟩ := mapM_cons_eq_ok.mp all
      exact ⟨⟨b, first⟩, others, later⟩
    · rintro ⟨⟨b, first⟩, others, later⟩
      exact ⟨b :: others, mapM_cons_eq_ok.mpr ⟨b, others, first, later, rfl⟩⟩

/-- Several computations succeed if each of them is known to. -/
theorem mapM_eq_ok_map {f : α → Except ε β} {g : α → β} {as : List α}
    (each : ∀ a ∈ as, f a = .ok (g a)) : as.mapM f = .ok (as.map g) := by
  -- By induction on the list, each result being known.
  induction as with
  | nil => rfl
  | cons a as ih =>
    rw [List.forall_mem_cons] at each
    exact mapM_cons_eq_ok.mpr ⟨g a, as.map g, each.1, ih each.2, rfl⟩

/-- Several computations fail as the first of them that does. -/
theorem mapM_append_cons_eq_error {f : α → Except ε β} {front back : List α} {a : α} {e : ε}
    (before : ∀ b ∈ front, ∃ c, f b = .ok c) (first : f a = .error e) :
    (front ++ a :: back).mapM f = .error e := by
  -- Those in front succeed, so that the failing one is reached.
  obtain ⟨made, success⟩ := exists_mapM_eq_ok.mpr before
  rw [List.mapM_append, List.mapM_cons, success, first]
  rfl

end Except
end AmigaRemote
