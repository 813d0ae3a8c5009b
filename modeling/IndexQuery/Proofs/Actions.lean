import IndexQuery.Snapshot.Lifecycle

set_option autoImplicit false

/-!
What an action makes of a world: its result, and the world it leaves behind. One equation for each way of putting
actions together, so that an operation can be run step by step.
-/

namespace IndexQuery.Snapshot

variable {ω ρ σ κ α β : Type}

def outcome (action : Action ω ρ σ κ α) (w : World ω ρ σ κ) : Except Error α × World ω ρ σ κ := action.run.run w

@[simp]
theorem outcome_pure (a : α) (w : World ω ρ σ κ) : outcome (pure a) w = (.ok a, w) := rfl

@[simp]
theorem outcome_throw (e : Error) (w : World ω ρ σ κ) :
    outcome (throw e : Action ω ρ σ κ α) w = (.error e, w) := rfl

theorem outcome_bind (action : Action ω ρ σ κ α) (next : α → Action ω ρ σ κ β) (w : World ω ρ σ κ) :
    outcome (action >>= next) w =
      match outcome action w with
      | (.ok a, w') => outcome (next a) w'
      | (.error e, w') => (.error e, w') := by
  change ExceptT.bindCont next (outcome action w).1 (outcome action w).2 = _
  generalize outcome action w = result
  obtain ⟨e | a, w'⟩ := result <;> rfl

theorem outcome_bind_ok {action : Action ω ρ σ κ α} {w w' : World ω ρ σ κ} {a : α} (h : outcome action w = (.ok a, w'))
    (next : α → Action ω ρ σ κ β) : outcome (action >>= next) w = outcome (next a) w' := by
  rw [outcome_bind, h]

theorem outcome_bind_error {action : Action ω ρ σ κ α} {w w' : World ω ρ σ κ} {e : Error}
    (h : outcome action w = (.error e, w')) (next : α → Action ω ρ σ κ β) :
    outcome (action >>= next) w = (.error e, w') := by
  rw [outcome_bind, h]

theorem outcome_ignore (action : Action ω ρ σ κ α) (w : World ω ρ σ κ) :
    outcome (do let _ ← action) w = ((outcome action w).1.map fun _ => (), (outcome action w).2) := by
  rw [outcome_bind]
  obtain ⟨e | a, w'⟩ := outcome action w <;> rfl

@[simp]
theorem outcome_attempt (action : Action ω ρ σ κ α) (w : World ω ρ σ κ) :
    outcome (attempt action) w = (.ok (outcome action w).1, (outcome action w).2) := rfl

@[simp]
theorem outcome_liftExcept (result : Except Error α) (w : World ω ρ σ κ) :
    outcome (liftExcept result : Action ω ρ σ κ α) w = (result, w) := by
  cases result <;> rfl

@[simp]
theorem outcome_getContext (w : World ω ρ σ κ) : outcome getContext w = (.ok w.context, w) := rfl

@[simp]
theorem outcome_modifyContext (f : Context ρ σ κ → Context ρ σ κ) (w : World ω ρ σ κ) :
    outcome (modifyContext f) w = (.ok (), ⟨f w.context, w.outside⟩) := rfl

@[simp]
theorem outcome_emit (E : Engine ω ρ σ κ) (event : Event) (w : World ω ρ σ κ) :
    outcome (emit E event) w = (.ok (), ⟨w.context, E.observe event w.outside⟩) := rfl

end IndexQuery.Snapshot
