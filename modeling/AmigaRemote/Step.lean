/-! Computations that change a state and may fail. What was changed before a failure stays changed:
bytes that were consumed or sent do not come back. -/

namespace AmigaRemote

/-- A computation on states `σ` with failures `ε`. -/
def Step (σ ε α : Type) : Type :=
  σ → Except ε α × σ

namespace Step

variable {σ ε α β : Type}

/-- Changes nothing. -/
protected def pure (a : α) : Step σ ε α :=
  fun s => (.ok a, s)

/-- Goes on from a success in the state it left, and stops at a failure. -/
protected def bind (x : Step σ ε α) (next : α → Step σ ε β) : Step σ ε β :=
  fun s =>
    match x s with
    | (.ok a, s) => next a s
    | (.error e, s) => (.error e, s)

instance : Monad (Step σ ε) where
  pure := Step.pure
  bind := Step.bind

instance : MonadExceptOf ε (Step σ ε) where
  throw e := fun s => (.error e, s)
  tryCatch x handle := fun s =>
    match x s with
    | (.ok a, s) => (.ok a, s)
    | (.error e, s) => handle e s

instance : MonadStateOf σ (Step σ ε) where
  get := fun s => (.ok s, s)
  set s := fun _ => (.ok (), s)
  modifyGet f := fun s => (.ok (f s).1, (f s).2)

/-- A result known beforehand. -/
def ofExcept (result : Except ε α) : Step σ ε α :=
  fun s => (result, s)

@[simp] theorem pure_apply (a : α) (s : σ) : (pure a : Step σ ε α) s = (.ok a, s) := rfl

@[simp] theorem throw_apply (e : ε) (s : σ) : (throw e : Step σ ε α) s = (.error e, s) := rfl

@[simp] theorem get_apply (s : σ) : (get : Step σ ε σ) s = (.ok s, s) := rfl

@[simp] theorem set_apply (s t : σ) : (set t : Step σ ε PUnit) s = (.ok (), t) := rfl

@[simp] theorem modify_apply (f : σ → σ) (s : σ) :
    (modify f : Step σ ε PUnit) s = (.ok (), f s) := rfl

@[simp] theorem ofExcept_apply (result : Except ε α) (s : σ) :
    (ofExcept result : Step σ ε α) s = (result, s) := rfl

/-- A sequence opens at its first computation. -/
theorem bind_apply (x : Step σ ε α) (next : α → Step σ ε β) (s : σ) :
    (x >>= next) s = match x s with
      | (.ok a, s) => next a s
      | (.error e, s) => (.error e, s) := rfl

/-- A sequence succeeds exactly if both of its parts do. -/
theorem bind_eq_ok {x : Step σ ε α} {next : α → Step σ ε β} {s t : σ} {b : β} :
    (x >>= next) s = (.ok b, t) ↔ ∃ a u, x s = (.ok a, u) ∧ next a u = (.ok b, t) := by
  -- Whatever the first part leaves is where the second begins.
  rw [bind_apply]
  rcases x s with ⟨_ | a, u⟩
  · simp
  · exact ⟨fun h => ⟨a, u, rfl, h⟩, fun ⟨_, _, same, h⟩ => by cases same; exact h⟩

/-- A sequence fails exactly if its first part fails, or the second does after the first. -/
theorem bind_eq_error {x : Step σ ε α} {next : α → Step σ ε β} {s t : σ} {e : ε} :
    (x >>= next) s = (.error e, t) ↔
      x s = (.error e, t) ∨ ∃ a u, x s = (.ok a, u) ∧ next a u = (.error e, t) := by
  -- A failure of the first part ends the whole in the state it left.
  rw [bind_apply]
  rcases x s with ⟨_ | a, u⟩
  · simp
  · refine ⟨fun h => .inr ⟨a, u, rfl, h⟩, ?_⟩
    rintro (none | ⟨_, _, same, h⟩)
    · simp at none
    · cases same; exact h

end Step

end AmigaRemote
