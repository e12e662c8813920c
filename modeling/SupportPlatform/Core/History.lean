import SupportPlatform.Core.Machine

/-!
# The history of a run

The steps a run has taken, each with the state it was taken in. An invariant may speak of the
history, and so of what was seen when a decision was made that takes effect later.
-/

namespace Machine

variable {σ ε α β : Type*} (step : σ → ε → Option σ)

/-- The steps of a run, in order. -/
def history (s : σ) (es : List ε) : List (σ × ε) := collect step (fun s e _ => [(s, e)]) s es

/-- What is collected step by step can be read off the history. -/
lemma collect_eq_flatMap (f : σ → ε → List α) (s : σ) (es : List ε) :
    collect step (fun s e _ => f s e) s es = (history step s es).flatMap fun x => f x.1 x.2 := by
  induction es generalizing s with
  | nil => rfl
  | cons e es ih =>
    cases h : step s e with
    | none => simp [history, collect, h]
    | some t =>
      rw [history, collect_cons step h, collect_cons step h, ih, history, List.flatMap_append,
        List.flatMap_singleton]

/-- The history up to a step is the history of the run up to this step. -/
lemma history_eq_append {s : σ} {es : List ε} {past future : List (σ × ε)} {x : σ × ε}
    (h : history step s es = past ++ x :: future) :
    ∃ fs gs, es = fs ++ x.2 :: gs ∧ exec step s fs = some x.1 ∧ history step s fs = past := by
  induction es generalizing s past with
  | nil => cases past <;> cases h
  | cons e es ih =>
    cases ht : step s e with
    | none => cases past <;> simp [history, collect, ht] at h
    | some t =>
      rw [history, collect_cons step ht] at h
      cases past with
      | nil =>
        obtain ⟨rfl, -⟩ := List.cons_eq_cons.mp h
        exact ⟨[], es, rfl, rfl, rfl⟩
      | cons y past =>
        obtain ⟨rfl, hrest⟩ := List.cons_eq_cons.mp h
        obtain ⟨fs, gs, rfl, hx, hpast⟩ := ih hrest
        refine ⟨e :: fs, gs, rfl, (exec_cons_eq_some step).mpr ⟨t, ht, hx⟩, ?_⟩
        rw [history, collect_cons step ht]
        exact congrArg ((s, e) :: ·) hpast

/-- What holds of a state and the history behind it is kept along a run when every step keeps it,
itself being the next step of the history. -/
theorem exec_history_invariant {I : σ → List (σ × ε) → Prop}
    (hstep : ∀ s e t l, I s l → step s e = some t → I t (l ++ [(s, e)])) {s u : σ} {es : List ε}
    (hs : I s []) (h : exec step s es = some u) : I u (history step s es) := by
  have hu := exec_collect_invariant step hstep hs h
  rwa [List.nil_append] at hu

/-! ### The last write -/

/-- An entry of a list with a last one is the last one, or it stands before it. -/
lemma append_singleton_cases {l before between : List α} {x y : α}
    (h : l ++ [y] = before ++ x :: between) :
    (l = before ∧ y = x ∧ between = []) ∨
      ∃ rest, l = before ++ x :: rest ∧ between = rest ++ [y] := by
  rcases List.eq_nil_or_concat' between with rfl | ⟨rest, z, rfl⟩
  · obtain ⟨rfl, heq⟩ := List.append_inj' h rfl
    exact .inl ⟨rfl, List.singleton_inj.mp heq, rfl⟩
  · rw [← List.cons_append, ← List.append_assoc] at h
    obtain ⟨rfl, heq⟩ := List.append_inj' h rfl
    exact .inr ⟨rest, rfl, by rw [List.singleton_inj.mp heq]⟩

/-- If each entry writes one value at most, the value written last is `b`, which stood there before
any write, exactly if every write of another value has been followed by one of `b`. -/
lemma getLast?_flatMap_eq_iff {f : α → List β} {b : β} (hf : ∀ x, (f x).length ≤ 1) (l : List α) :
    (l.flatMap f).getLast?.getD b = b ↔
      ∀ before x between, l = before ++ x :: between → (∃ c ∈ f x, c ≠ b) →
        ∃ z ∈ between, b ∈ f z := by
  induction l using List.reverseRecOn with
  | nil => simp
  | append_singleton l y ih =>
    rw [List.flatMap_append, List.flatMap_singleton]
    match hy : f y with
    | [] =>
      rw [List.append_nil, ih]
      constructor
      · intro h before x between hsplit hx
        rcases append_singleton_cases hsplit with ⟨rfl, rfl, rfl⟩ | ⟨rest, rfl, rfl⟩
        · simp [hy] at hx
        · obtain ⟨z, hz, hb⟩ := h before x rest rfl hx
          exact ⟨z, List.mem_append_left _ hz, hb⟩
      · rintro h before x between rfl hx
        obtain ⟨z, hz, hb⟩ := h before x (between ++ [y]) (by simp) hx
        rcases List.mem_append.mp hz with hz | hz
        · exact ⟨z, hz, hb⟩
        · rw [List.mem_singleton.mp hz, hy] at hb
          cases hb
    | [c] =>
      rw [List.getLast?_append, List.getLast?_singleton, Option.some_or, Option.getD_some]
      constructor
      · rintro rfl before x between hsplit hx
        rcases append_singleton_cases hsplit with ⟨rfl, rfl, rfl⟩ | ⟨rest, rfl, rfl⟩
        · simp [hy] at hx
        · exact ⟨y, by simp, by simp [hy]⟩
      · intro h
        by_contra hne
        obtain ⟨z, hz, -⟩ := h l y [] rfl ⟨c, by simp [hy], hne⟩
        cases hz
    | _ :: _ :: _ => simpa [hy] using hf y

end Machine
