/-!
# Transactions with rollback

A transaction body reads an environment `ρ`, works on a state `σ` and either returns a value with
the new state or throws. `commit` runs a body the way an interactive transaction does: what it
wrote is kept when it returns and dropped when it throws.
-/

/-- The body of a transaction. -/
def Transaction (ρ σ ε α : Type) := ρ → σ → Except ε (α × σ)

namespace Transaction

variable {ρ σ ε α β : Type}

instance : Monad (Transaction ρ σ ε) where
  pure a := fun _ s => .ok (a, s)
  bind x f := fun r s =>
    match x r s with
    | .error e => .error e
    | .ok (a, t) => f a r t

/-- Throw, which undoes what the body has written so far. -/
def throw (e : ε) : Transaction ρ σ ε α := fun _ _ => .error e

/-- The environment the body runs in. -/
def ask : Transaction ρ σ ε ρ := fun r s => .ok (r, s)

@[simp] theorem ask_apply (r : ρ) (s : σ) : (ask : Transaction ρ σ ε ρ) r s = .ok (r, s) := rfl

@[simp] theorem pure_apply (a : α) (r : ρ) (s : σ) :
    (pure a : Transaction ρ σ ε α) r s = .ok (a, s) := rfl

@[simp] theorem throw_apply (e : ε) (r : ρ) (s : σ) :
    (throw e : Transaction ρ σ ε α) r s = .error e := rfl

theorem bind_apply (x : Transaction ρ σ ε α) (f : α → Transaction ρ σ ε β) (r : ρ) (s : σ) :
    (x >>= f) r s = match x r s with
      | .error e => .error e
      | .ok (a, t) => f a r t := rfl

/-- A sequence returns exactly when both of its parts do. -/
theorem bind_eq_ok {x : Transaction ρ σ ε α} {f : α → Transaction ρ σ ε β} {r : ρ} {s u : σ}
    {b : β} :
    (x >>= f) r s = .ok (b, u) ↔ ∃ a t, x r s = .ok (a, t) ∧ f a r t = .ok (b, u) := by
  rw [bind_apply]
  constructor
  · intro h
    split at h
    · cases h
    · next a t hx => exact ⟨a, t, hx, h⟩
  · rintro ⟨a, t, hx, hf⟩
    simp [hx, hf]

theorem bind_of_ok {x : Transaction ρ σ ε α} {f : α → Transaction ρ σ ε β} {r : ρ} {s t : σ}
    {a : α} (h : x r s = .ok (a, t)) : (x >>= f) r s = f a r t := by
  simp [bind_apply, h]

/-- Run a body and commit it; when it throws, the state is the one before. -/
def commit (x : Transaction ρ σ ε α) (r : ρ) (s : σ) : Except ε α × σ :=
  match x r s with
  | .error e => (.error e, s)
  | .ok (a, t) => (.ok a, t)

theorem commit_eq_ok {x : Transaction ρ σ ε α} {r : ρ} {s t : σ} {a : α} :
    x.commit r s = (.ok a, t) ↔ x r s = .ok (a, t) := by
  unfold commit
  split <;> simp_all

/-- A transaction that throws leaves the state as it was. -/
theorem commit_error {x : Transaction ρ σ ε α} {r : ρ} {s t : σ} {e : ε}
    (h : x.commit r s = (.error e, t)) : t = s := by
  unfold commit at h
  split at h
  · next he => cases h; rfl
  · cases h

/-! ### What a body can throw -/

/-- Every error of the body satisfies `p` when it runs in the environment `r`. -/
def ThrowsOnly (p : ε → Prop) (r : ρ) (x : Transaction ρ σ ε α) : Prop :=
  ∀ s e, x r s = .error e → p e

namespace ThrowsOnly

variable {p : ε → Prop} {r : ρ}

theorem pure (a : α) : ThrowsOnly p r (Pure.pure a : Transaction ρ σ ε α) := fun _ _ h => by cases h

theorem ask : ThrowsOnly p r (ask : Transaction ρ σ ε ρ) := fun _ _ h => by cases h

theorem bind {x : Transaction ρ σ ε α} {f : α → Transaction ρ σ ε β} (hx : ThrowsOnly p r x)
    (hf : ∀ a, ThrowsOnly p r (f a)) : ThrowsOnly p r (x >>= f) := by
  intro s e h
  rw [bind_apply] at h
  split at h
  · next hx' =>
    cases h
    exact hx s e hx'
  · next a t _ => exact hf a t e h

theorem of_commit {x : Transaction ρ σ ε α} (hx : ThrowsOnly p r x) {s t : σ} {e : ε}
    (h : x.commit r s = (.error e, t)) : p e := by
  unfold commit at h
  split at h
  · next hx' =>
    cases h
    exact hx s e hx'
  · cases h

end ThrowsOnly

end Transaction
