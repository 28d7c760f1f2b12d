import AmigaRemote.Step

/-! What computations leave as it was, whether they fail or not. -/

namespace AmigaRemote.Step

/-- A computation that leaves a property of the state as it was. -/
def Keeps {σ ε α : Type} (property : σ → Prop) (act : Step σ ε α) : Prop :=
  ∀ ⦃s⦄, property s → property (act s).2

namespace Keeps

variable {σ ε α β : Type} {property : σ → Prop}

/-- What changes nothing keeps everything. -/
theorem pure (a : α) : Keeps property (Pure.pure a : Step σ ε α) :=
  -- The state that is left is the state that was there.
  fun _ holds => holds

/-- To look at the state keeps everything. -/
theorem get : Keeps property (MonadState.get : Step σ ε σ) :=
  -- As for a result.
  fun _ holds => holds

/-- A sequence keeps what each of its parts keeps. -/
theorem bind {x : Step σ ε α} {next : α → Step σ ε β} (first : Keeps property x)
    (second : ∀ a, Keeps property (next a)) : Keeps property (x >>= next) := by
  intro s holds
  have kept := first holds
  rw [bind_apply]
  -- After a failure the state is that of the first part.
  split
  all_goals
    rename_i outcome
    rw [outcome] at kept
  · exact second _ kept
  · exact kept

end Keeps

/-- A computation that leaves the whole state as it was. -/
def Still {σ ε α : Type} (act : Step σ ε α) : Prop :=
  ∀ s, (act s).2 = s

variable {σ ε α β : Type}

/-- What follows without a change leaves what was there before it. -/
theorem bind_still (x : Step σ ε α) {next : α → Step σ ε β} (still : ∀ a, Still (next a)) (s : σ) :
    ((x >>= next) s).2 = (x s).2 := by
  -- Where the first part fails, nothing follows; where it succeeds, what follows is still.
  rw [bind_apply]
  split
  all_goals
    rename_i found
    rw [found]
  exact still _ _

/-- A sequence of computations that change nothing changes nothing. -/
theorem Still.bind {x : Step σ ε α} {next : α → Step σ ε β} (first : Still x)
    (second : ∀ a, Still (next a)) : Still (x >>= next) :=
  -- The second part is still after any result of the first.
  fun s => (bind_still x second s).trans (first s)

/-- What follows a success begins where it ended. -/
theorem bind_ok {x : Step σ ε α} {s t : σ} {a : α} (succeeded : x s = (.ok a, t))
    (next : α → Step σ ε β) : (x >>= next) s = next a t := by
  -- A success hands its result and its state to what follows.
  rw [bind_apply, succeeded]

/-- Nothing follows a failure. -/
theorem bind_error {x : Step σ ε α} {s t : σ} {e : ε} (failed : x s = (.error e, t))
    (next : α → Step σ ε β) : (x >>= next) s = (.error e, t) := by
  -- A failure is handed on.
  rw [bind_apply, failed]

/-- It makes no difference where a sequence of three is cut. -/
theorem bind_assoc {γ : Type} (x : Step σ ε α) (next : α → Step σ ε β) (last : β → Step σ ε γ) :
    x >>= (fun a => next a >>= last) = (x >>= next) >>= last := by
  -- Both sides look at the first part in the same state.
  funext s
  rw [bind_apply, bind_apply, bind_apply]
  rcases x s with ⟨_ | a, t⟩
  all_goals rfl

/-- What changes nothing keeps everything. -/
theorem Still.keeps {property : σ → Prop} {act : Step σ ε α} (still : Still act) :
    Keeps property act := by
  intro s holds
  -- The state is the same one, so that whatever held of it holds.
  rw [still s]
  exact holds

/-- A result changes nothing. -/
theorem Still.pure (a : α) : Still (Pure.pure a : Step σ ε α) :=
  -- A result leaves the state that it finds.
  fun _ => rfl

/-- To give up changes nothing. -/
theorem Still.throw (e : ε) : Still (MonadExcept.throw e : Step σ ε α) :=
  -- So does an error.
  fun _ => rfl

/-- To look at the state changes nothing. -/
theorem Still.get : Still (MonadState.get : Step σ ε σ) :=
  -- And so does a look.
  fun _ => rfl

end AmigaRemote.Step
