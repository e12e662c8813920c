import Mathlib.Algebra.GroupWithZero.Nat
import Mathlib.Data.List.Basic
import Mathlib.Data.List.Infix

/-!
# Runs of a guarded machine

A machine is a partial step function `step : σ → ε → Option σ`: an event is either not enabled
in a state or leads to exactly one next state, all choices being part of the event. A run is a
list of events. This file has the composition of runs, the invariant rules (plain and for runs
whose steps all meet a condition), and the ledger rule for quantities collected along a run.
-/

namespace Machine

variable {σ ε α β : Type*} (step : σ → ε → Option σ)

/-- The state a list of events leads to; `none` when some event of it is not enabled. -/
def exec : σ → List ε → Option σ
  | s, [] => some s
  | s, e :: es => (step s e).bind fun t => exec t es

@[simp] lemma exec_nil (s : σ) : exec step s [] = some s := rfl

@[simp] lemma exec_cons_eq_some {s u : σ} {e : ε} {es : List ε} :
    exec step s (e :: es) = some u ↔ ∃ t, step s e = some t ∧ exec step t es = some u := by
  simp [exec, Option.bind_eq_some_iff]

/-- A run that has been evaluated leads to a state with what the evaluation tells of it. -/
lemma exists_of_any {o : Option σ} {P : σ → Prop} [DecidablePred P] (h : o.any fun s => P s) :
    ∃ s, o = some s ∧ P s := by
  obtain ⟨s, hs, hP⟩ := (Option.any_eq_true _ _).mp h
  exact ⟨s, hs, of_decide_eq_true hP⟩

/-- Runs compose. -/
lemma exec_append {s u : σ} {es fs : List ε} :
    exec step s (es ++ fs) = some u ↔
      ∃ t, exec step s es = some t ∧ exec step t fs = some u := by
  induction es generalizing s with
  | nil => simp
  | cons e es ih =>
    simp only [List.cons_append, exec_cons_eq_some, ih]
    constructor
    · rintro ⟨r, hr, t, ht, hu⟩
      exact ⟨t, ⟨r, hr, ht⟩, hu⟩
    · rintro ⟨t, ⟨r, hr, ht⟩, hu⟩
      exact ⟨r, hr, t, ht, hu⟩

/-! ### Invariants -/

/-- What every step preserves, every run preserves. -/
theorem exec_invariant {I : σ → Prop} (hstep : ∀ s e t, I s → step s e = some t → I t)
    {s u : σ} {es : List ε} (hs : I s) (h : exec step s es = some u) : I u := by
  induction es generalizing s with
  | nil => cases h; exact hs
  | cons e es ih =>
    obtain ⟨t, ht, hu⟩ := (exec_cons_eq_some step).mp h
    exact ih (hstep s e t hs ht) hu

/-- What every step on an event of a kind preserves, every run of such events preserves. -/
theorem exec_invariant_of_forall {I : σ → Prop} {C : ε → Prop}
    (hstep : ∀ s e t, I s → C e → step s e = some t → I t) {s u : σ} {es : List ε} (hs : I s)
    (hes : ∀ e ∈ es, C e) (h : exec step s es = some u) : I u := by
  induction es generalizing s with
  | nil => cases h; exact hs
  | cons e es ih =>
    obtain ⟨t, ht, hu⟩ := (exec_cons_eq_some step).mp h
    exact ih (hstep s e t hs (hes e List.mem_cons_self) ht)
      (fun f hf => hes f (List.mem_cons_of_mem e hf)) hu

/-- A reflexive and transitive relation that every step respects relates the ends of a run. -/
theorem exec_relation {R : σ → σ → Prop} (hrefl : ∀ s, R s s)
    (htrans : ∀ s t u, R s t → R t u → R s u) (hstep : ∀ s e t, step s e = some t → R s t)
    {s u : σ} {es : List ε} (h : exec step s es = some u) : R s u :=
  exec_invariant step (I := R s) (fun t e u hst hu => htrans s t u hst (hstep t e u hu))
    (hrefl s) h

/-! ### Runs whose steps all meet a condition -/

/-- Every event of the run is taken in a state that meets `C`. -/
def Guarded (C : σ → ε → Prop) : σ → List ε → Prop
  | _, [] => True
  | s, e :: es => C s e ∧ ∀ t, step s e = some t → Guarded C t es

@[simp] lemma guarded_nil (C : σ → ε → Prop) (s : σ) : Guarded step C s [] := trivial

@[simp] lemma guarded_cons {C : σ → ε → Prop} {s : σ} {e : ε} {es : List ε} :
    Guarded step C s (e :: es) ↔ C s e ∧ ∀ t, step s e = some t → Guarded step C t es := Iff.rfl

lemma Guarded.and {C D : σ → ε → Prop} {s : σ} {es : List ε} (hC : Guarded step C s es)
    (hD : Guarded step D s es) : Guarded step (fun s e => C s e ∧ D s e) s es := by
  induction es generalizing s with
  | nil => trivial
  | cons e es ih => exact ⟨⟨hC.1, hD.1⟩, fun t ht => ih (hC.2 t ht) (hD.2 t ht)⟩

lemma Guarded.imp {C D : σ → ε → Prop} (hCD : ∀ s e, C s e → D s e) {s : σ} {es : List ε}
    (hC : Guarded step C s es) : Guarded step D s es := by
  induction es generalizing s with
  | nil => trivial
  | cons e es ih => exact ⟨hCD s e hC.1, fun t ht => ih (hC.2 t ht)⟩

lemma Guarded.of_forall {C : ε → Prop} {s : σ} {es : List ε} (h : ∀ e ∈ es, C e) :
    Guarded step (fun _ e => C e) s es := by
  induction es generalizing s with
  | nil => trivial
  | cons e es ih =>
    exact ⟨h e List.mem_cons_self, fun _ _ => ih fun f hf => h f (List.mem_cons_of_mem e hf)⟩

instance Guarded.decidable (C : σ → ε → Prop) [∀ s e, Decidable (C s e)] :
    ∀ (s : σ) (es : List ε), Decidable (Guarded step C s es)
  | _, [] => .isTrue trivial
  | s, e :: es =>
    match h : step s e with
    | none => decidable_of_iff (C s e) (by simp [h])
    | some t =>
      have := Guarded.decidable C t es
      decidable_of_iff (C s e ∧ Guarded step C t es) (by simp [h])

/-- A run is guarded when each of its steps is, looked at from the states it passes. -/
lemma guarded_iff {C : σ → ε → Prop} {s u : σ} {es : List ε} (h : exec step s es = some u) :
    Guarded step C s es ↔
      ∀ fs e gs t, es = fs ++ e :: gs → exec step s fs = some t → C t e := by
  induction es generalizing s with
  | nil => simp
  | cons e es ih =>
    obtain ⟨r, hr, hu⟩ := (exec_cons_eq_some step).mp h
    simp only [guarded_cons, hr, Option.some.injEq, forall_eq', ih hu]
    constructor
    · rintro ⟨hC, hes⟩ fs f gs t hsplit ht
      cases fs with
      | nil =>
        obtain ⟨rfl, rfl⟩ := List.cons_eq_cons.mp hsplit
        cases ht
        exact hC
      | cons f' fs =>
        obtain ⟨rfl, rfl⟩ := List.cons_eq_cons.mp hsplit
        obtain ⟨r', hr', ht⟩ := (exec_cons_eq_some step).mp ht
        cases hr.symm.trans hr'
        exact hes fs f gs t rfl ht
    · intro hall
      refine ⟨hall [] e es s rfl rfl, fun fs f gs t hsplit ht => ?_⟩
      exact hall (e :: fs) f gs t (by rw [hsplit, List.cons_append])
        ((exec_cons_eq_some step).mpr ⟨r, hr, ht⟩)

/-- What every step that meets `C` preserves, every guarded run preserves. -/
theorem exec_guarded_invariant {I : σ → Prop} {C : σ → ε → Prop}
    (hstep : ∀ s e t, I s → C s e → step s e = some t → I t) {s u : σ} {es : List ε}
    (hs : I s) (hC : Guarded step C s es) (h : exec step s es = some u) : I u := by
  induction es generalizing s with
  | nil => cases h; exact hs
  | cons e es ih =>
    obtain ⟨t, ht, hu⟩ := (exec_cons_eq_some step).mp h
    exact ih (hstep s e t hs hC.1 ht) (hC.2 t ht) hu

/-- If a step respects a reflexive and transitive relation exactly when it meets `C`, then each
state of a run is related to the later ones exactly when the run is guarded by `C`. -/
theorem exec_relation_iff {R : σ → σ → Prop} {C : σ → ε → Prop} (hrefl : ∀ s, R s s)
    (htrans : ∀ s t u, R s t → R t u → R s u)
    (hstep : ∀ s e t, step s e = some t → (R s t ↔ C s e)) {s u : σ} {es : List ε}
    (h : exec step s es = some u) :
    (∀ fs gs t v, fs ++ gs <+: es → exec step s fs = some t → exec step t gs = some v → R t v) ↔
      Guarded step C s es := by
  induction es generalizing s with
  | nil =>
    simp only [guarded_nil, iff_true]
    intro fs gs t v hpre ht hv
    obtain ⟨rfl, rfl⟩ := List.append_eq_nil_iff.mp (List.prefix_nil.mp hpre)
    cases ht
    cases hv
    exact hrefl s
  | cons e es ih =>
    obtain ⟨r, hr, hu⟩ := (exec_cons_eq_some step).mp h
    simp only [guarded_cons, hr, Option.some.injEq, forall_eq', ← ih hu]
    constructor
    · intro hall
      refine ⟨(hstep s e r hr).mp (hall [] [e] s r (by simp) rfl (by simp [hr])), ?_⟩
      intro fs gs t v hpre ht hv
      refine hall (e :: fs) gs t v (List.cons_prefix_cons.mpr ⟨rfl, hpre⟩) ?_ hv
      exact (exec_cons_eq_some step).mpr ⟨r, hr, ht⟩
    · rintro ⟨hC, hall⟩ fs gs t v hpre ht hv
      have hsr : R s r := (hstep s e r hr).mpr hC
      cases fs with
      | nil =>
        cases ht
        cases gs with
        | nil =>
          cases hv
          exact hrefl s
        | cons e' gs =>
          obtain ⟨rfl, hrest⟩ := List.cons_prefix_cons.mp hpre
          obtain ⟨r', hr', hv⟩ := (exec_cons_eq_some step).mp hv
          cases hr.symm.trans hr'
          exact htrans s r v hsr (hall [] gs r v hrest rfl hv)
      | cons e' fs =>
        obtain ⟨rfl, hrest⟩ := List.cons_prefix_cons.mp hpre
        obtain ⟨r', hr', ht⟩ := (exec_cons_eq_some step).mp ht
        cases hr.symm.trans hr'
        exact hall fs gs t v hrest ht hv

/-! ### Quantities collected along a run -/

/-- The entries that the steps of a run produce, in order. -/
def collect (f : σ → ε → σ → List α) : σ → List ε → List α
  | _, [] => []
  | s, e :: es =>
    match step s e with
    | none => []
    | some t => f s e t ++ collect f t es

@[simp] lemma collect_nil (f : σ → ε → σ → List α) (s : σ) : collect step f s [] = [] := rfl

lemma collect_cons {f : σ → ε → σ → List α} {s t : σ} {e : ε} {es : List ε}
    (h : step s e = some t) : collect step f s (e :: es) = f s e t ++ collect step f t es := by
  simp [collect, h]

lemma map_collect {f : σ → ε → σ → List α} (g : α → β) (s : σ) (es : List ε) :
    (collect step f s es).map g = collect step (fun s e t => (f s e t).map g) s es := by
  induction es generalizing s with
  | nil => rfl
  | cons e es ih =>
    cases h : step s e with
    | none => simp [collect, h]
    | some t => rw [collect_cons step h, collect_cons step h, List.map_append, ih]

/-- What a run collects, its steps have produced. -/
lemma mem_collect {f : σ → ε → σ → List α} {s u : σ} {es : List ε} {a : α}
    (h : exec step s es = some u) (ha : a ∈ collect step f s es) :
    ∃ fs e gs r t, es = fs ++ e :: gs ∧ exec step s fs = some r ∧ step r e = some t ∧
      exec step t gs = some u ∧ a ∈ f r e t := by
  induction es generalizing s with
  | nil => cases ha
  | cons e es ih =>
    obtain ⟨t, ht, hu⟩ := (exec_cons_eq_some step).mp h
    rw [collect_cons step ht, List.mem_append] at ha
    rcases ha with ha | ha
    · exact ⟨[], e, es, s, t, rfl, rfl, ht, hu, ha⟩
    · obtain ⟨fs, e', gs, r, t', rfl, hr, ht', hu', ha⟩ := ih hu ha
      exact ⟨e :: fs, e', gs, r, t', rfl, (exec_cons_eq_some step).mpr ⟨t, ht, hr⟩, ht', hu', ha⟩

/-- The ledger rule: a log that every step extends by what it produces is, after a run, the
initial log extended by what the run produced. -/
theorem collect_ledger {I : σ → Prop} {f : σ → ε → σ → List α} {log : σ → List α}
    (hI : ∀ s e t, I s → step s e = some t → I t)
    (hlog : ∀ s e t, I s → step s e = some t → log t = log s ++ f s e t)
    {s u : σ} {es : List ε} (hs : I s) (h : exec step s es = some u) :
    log u = log s ++ collect step f s es := by
  induction es generalizing s with
  | nil => cases h; simp
  | cons e es ih =>
    obtain ⟨t, ht, hu⟩ := (exec_cons_eq_some step).mp h
    rw [ih (hI s e t hs ht) hu, hlog s e t hs ht, collect_cons step ht, List.append_assoc]

/-- What is collected of the events alone is what the list of events has. -/
lemma collect_events (g : ε → List α) {s u : σ} {es : List ε} (h : exec step s es = some u) :
    collect step (fun _ e _ => g e) s es = es.flatMap g := by
  induction es generalizing s with
  | nil => rfl
  | cons e es ih =>
    obtain ⟨t, ht, hu⟩ := (exec_cons_eq_some step).mp h
    rw [collect_cons step ht, ih hu, List.flatMap_cons]

/-- What holds of a state together with what has been collected so far is kept along a guarded run
when every step that meets `C` keeps it. -/
theorem exec_guarded_collect_invariant {I : σ → List α → Prop} {f : σ → ε → σ → List α}
    {C : σ → ε → Prop} (hstep : ∀ s e t l, I s l → C s e → step s e = some t → I t (l ++ f s e t))
    {s u : σ} {es : List ε} {l : List α} (hs : I s l) (hC : Guarded step C s es)
    (h : exec step s es = some u) : I u (l ++ collect step f s es) := by
  induction es generalizing s l with
  | nil =>
    cases h
    rwa [collect_nil, List.append_nil]
  | cons e es ih =>
    obtain ⟨t, ht, hu⟩ := (exec_cons_eq_some step).mp h
    rw [collect_cons step ht, ← List.append_assoc]
    exact ih (hstep s e t l hs hC.1 ht) (hC.2 t ht) hu

/-- The same for every run. -/
theorem exec_collect_invariant {I : σ → List α → Prop} {f : σ → ε → σ → List α}
    (hstep : ∀ s e t l, I s l → step s e = some t → I t (l ++ f s e t)) {s u : σ} {es : List ε}
    {l : List α} (hs : I s l) (h : exec step s es = some u) : I u (l ++ collect step f s es) :=
  exec_guarded_collect_invariant step (C := fun _ _ => True)
    (fun s e t l hI _ ht => hstep s e t l hI ht) hs (.of_forall step fun _ _ => trivial) h

/-- If `K` implies `I`, a step that meets `C` keeps `K`, and a step to a state of `I` has met `C`,
then `I` holds all along a run exactly when the run is guarded by `C`. All this is said of a state
together with what has been collected, and of events of the kind `D`. -/
theorem exec_collect_strengthened_iff {I K : σ → List α → Prop} {f : σ → ε → σ → List α}
    {C : σ → ε → Prop} {D : ε → Prop} (hKI : ∀ s l, K s l → I s l)
    (hmeets : ∀ s e t l, K s l → D e → step s e = some t → I t (l ++ f s e t) → C s e)
    (hkeeps : ∀ s e t l, K s l → D e → step s e = some t → C s e → K t (l ++ f s e t)) {s u : σ}
    {es : List ε} {l : List α} (hs : K s l) (hes : ∀ e ∈ es, D e) (h : exec step s es = some u) :
    (∀ fs t, fs <+: es → exec step s fs = some t → I t (l ++ collect step f s fs)) ↔
      Guarded step C s es := by
  induction es generalizing s l with
  | nil =>
    simp only [guarded_nil, iff_true]
    rintro fs t hfs ht
    obtain rfl := List.prefix_nil.mp hfs
    cases ht
    simpa using hKI s l hs
  | cons e es ih =>
    obtain ⟨r, hr, hu⟩ := (exec_cons_eq_some step).mp h
    have he : D e := hes e List.mem_cons_self
    have hrest {l' : List α} (hK : K r l') := ih hK (fun e' he' => hes e' (.tail e he')) hu
    have hcollect (fs : List ε) :
        l ++ collect step f s (e :: fs) = (l ++ f s e r) ++ collect step f r fs := by
      rw [collect_cons step hr, List.append_assoc]
    simp only [guarded_cons, hr, Option.some.injEq, forall_eq']
    constructor
    · intro hall
      have hI : I r (l ++ f s e r) := by
        have := hall [e] r (by simp) (by simp [hr])
        rwa [hcollect, collect_nil, List.append_nil] at this
      have hC : C s e := hmeets s e r l hs he hr hI
      refine ⟨hC, (hrest (hkeeps s e r l hs he hr hC)).mp fun fs t hfs ht => ?_⟩
      rw [← hcollect]
      exact hall (e :: fs) t (List.cons_prefix_cons.mpr ⟨rfl, hfs⟩)
        ((exec_cons_eq_some step).mpr ⟨r, hr, ht⟩)
    · rintro ⟨hC, hguarded⟩ fs t hfs ht
      cases fs with
      | nil =>
        cases ht
        simpa using hKI s l hs
      | cons e' fs =>
        obtain ⟨rfl, hprefix⟩ := List.cons_prefix_cons.mp hfs
        obtain ⟨r', hr', ht⟩ := (exec_cons_eq_some step).mp ht
        cases hr.symm.trans hr'
        rw [hcollect]
        exact (hrest (hkeeps s e' r l hs he hr hC)).mpr hguarded fs t hprefix ht

/-- The same where nothing is collected. -/
theorem exec_strengthened_iff {I K : σ → Prop} {C : σ → ε → Prop} {D : ε → Prop}
    (hKI : ∀ s, K s → I s) (hmeets : ∀ s e t, K s → D e → step s e = some t → I t → C s e)
    (hkeeps : ∀ s e t, K s → D e → step s e = some t → C s e → K t) {s u : σ} {es : List ε}
    (hs : K s) (hes : ∀ e ∈ es, D e) (h : exec step s es = some u) :
    (∀ fs t, fs <+: es → exec step s fs = some t → I t) ↔ Guarded step C s es :=
  exec_collect_strengthened_iff step (I := fun s (_ : List Unit) => I s) (K := fun s _ => K s)
    (f := fun _ _ _ => []) (l := []) (fun s _ => hKI s) (fun s e t _ => hmeets s e t)
    (fun s e t _ => hkeeps s e t) hs hes h

/-- If a step keeps `I`, together with what has been collected, exactly when it meets `C`, then `I`
holds all along a run exactly when the run is guarded by `C`. The invariant `J` holds anyway. -/
theorem exec_collect_invariant_iff {I : σ → List α → Prop} {J : σ → Prop} {f : σ → ε → σ → List α}
    {C : σ → ε → Prop} (hJ : ∀ s e t, J s → step s e = some t → J t)
    (hstep : ∀ s e t l, J s → I s l → step s e = some t → (I t (l ++ f s e t) ↔ C s e)) {s u : σ}
    {es : List ε} {l : List α} (hJs : J s) (hs : I s l) (h : exec step s es = some u) :
    (∀ fs t, fs <+: es → exec step s fs = some t → I t (l ++ collect step f s fs)) ↔
      Guarded step C s es :=
  exec_collect_strengthened_iff step (K := fun s l => J s ∧ I s l) (D := fun _ => True)
    (fun _ _ hs => hs.2) (fun s e t l hs _ ht hI => (hstep s e t l hs.1 hs.2 ht).mp hI)
    (fun s e t l hs _ ht hC => ⟨hJ s e t hs.1 ht, (hstep s e t l hs.1 hs.2 ht).mpr hC⟩)
    ⟨hJs, hs⟩ (fun _ _ => trivial) h

/-- The same where nothing is collected. -/
theorem exec_invariant_iff {I J : σ → Prop} {C : σ → ε → Prop}
    (hJ : ∀ s e t, J s → step s e = some t → J t)
    (hstep : ∀ s e t, J s → I s → step s e = some t → (I t ↔ C s e)) {s u : σ} {es : List ε}
    (hJs : J s) (hs : I s) (h : exec step s es = some u) :
    (∀ fs t, fs <+: es → exec step s fs = some t → I t) ↔ Guarded step C s es :=
  exec_collect_invariant_iff step (I := fun s (_ : List Unit) => I s) (f := fun _ _ _ => [])
    (l := []) hJ (fun s e t _ => hstep s e t) hJs hs h

/-- A counter agrees with what the run has collected, at every point of the run, exactly when every
step moves both alike. -/
theorem tally_iff {f : σ → ε → σ → List α} {g : σ → Nat} {C : σ → ε → Prop}
    (hstep : ∀ s e t, step s e = some t → (g t = g s + (f s e t).length ↔ C s e)) {s u : σ}
    {es : List ε} (h : exec step s es = some u) :
    (∀ fs t, fs <+: es → exec step s fs = some t →
      g t = g s + (collect step f s fs).length) ↔ Guarded step C s es := by
  refine exec_collect_invariant_iff step (I := fun t l => g t = g s + l.length)
    (J := fun _ => True) (l := []) (fun _ _ _ _ _ => trivial) (fun r e t l _ hr ht => ?_) trivial
    rfl h
  rw [← hstep r e t ht, hr, List.length_append, Nat.add_assoc]

/-! ### Pools of processes

The processes of a machine as a list, of which a step replaces one, or to which it adds one. -/

section Pool

variable {p : α → Bool} {l : List α} {i : Nat} {a b : α}

/-- After a step a process is the one that took it, or it is the process it was. -/
lemma getElem?_set_cases {j : Nat} {c : α} (h : (l.set i a)[j]? = some c) :
    (j = i ∧ c = a) ∨ (j ≠ i ∧ l[j]? = some c) := by
  rw [List.getElem?_set] at h
  split_ifs at h with hij
  · cases h
    exact .inl ⟨hij.symm, rfl⟩
  · exact .inr ⟨fun heq => hij heq.symm, h⟩

/-- After a start a process is one that was there, or it is the new one. -/
lemma getElem?_concat_cases {c : α} (h : (l ++ [a])[i]? = some c) :
    l[i]? = some c ∨ (l.length = i ∧ c = a) := by
  rcases Nat.lt_or_ge i l.length with hlt | hge
  · exact .inl ((List.getElem?_append_left hlt).symm.trans h)
  · rw [List.getElem?_append_right hge, List.getElem?_singleton] at h
    split_ifs at h with hi
    cases h
    exact .inr ⟨by omega, rfl⟩

/-- Replacing a process changes a count by what the two processes contribute. -/
lemma countP_set_add (hb : l[i]? = some b) :
    (l.set i a).countP p + (if p b then 1 else 0) = l.countP p + if p a then 1 else 0 := by
  induction l generalizing i with
  | nil => cases hb
  | cons c l ih =>
    cases i with
    | zero =>
      cases hb
      simp only [List.set_cons_zero, List.countP_cons]
      omega
    | succ i =>
      have := ih (i := i) hb
      simp only [List.set_cons_succ, List.countP_cons]
      omega

/-- Replacing a process changes a total by what the two processes contribute. -/
lemma sum_set_add (g : α → Nat) (hb : l[i]? = some b) :
    ((l.set i a).map g).sum + g b = (l.map g).sum + g a := by
  obtain ⟨hi, rfl⟩ := List.getElem?_eq_some_iff.mp hb
  conv_rhs => rw [← List.take_append_drop i l, List.drop_eq_getElem_cons hi]
  rw [List.set_eq_take_append_cons_drop, if_pos hi]
  simp only [List.map_append, List.map_cons, List.sum_append, List.sum_cons]
  omega

/-- What holds of every process after a step holds of the one that took it and of the others. -/
lemma forall_mem_set_iff {P : α → Prop} (hb : l[i]? = some b) :
    (∀ c ∈ l.set i a, P c) ↔ P a ∧ ∀ c ∈ l.eraseIdx i, P c := by
  obtain ⟨hi, -⟩ := List.getElem?_eq_some_iff.mp hb
  rw [List.set_eq_take_append_cons_drop, if_pos hi, List.eraseIdx_eq_take_drop_succ]
  simp only [List.forall_mem_append, List.forall_mem_cons]
  exact and_left_comm

lemma countP_set_le (hb : l[i]? = some b) (h : p a → p b) :
    (l.set i a).countP p ≤ l.countP p := by
  have hset := countP_set_add (p := p) (a := a) hb
  by_cases ha : p a
  · simp only [ha, h ha, if_true] at hset
    omega
  · simp only [ha] at hset
    split at hset <;> simp at hset <;> omega

end Pool

end Machine
