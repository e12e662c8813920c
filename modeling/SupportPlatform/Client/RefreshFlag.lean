import SupportPlatform.Client.Tab

/-!
# The refresh flag

`isRefreshing` is set when a refresh starts and cleared by its answer. It goes wrong in two ways:
a request that is cancelled takes its refresh with it and leaves the flag set, and the retry of a
request that had started a refresh clears the flag of another one when it fails.
-/

namespace SupportPlatform

namespace RequestPhase

variable {Access Refresh : Type}

/-- The retry of a request that started a refresh itself. -/
def isStarterRetry : RequestPhase Access Refresh → Bool
  | retried _ none => true
  | _ => false

@[simp] lemma isRefreshing_release (token : RefreshedToken Access)
    (phase : RequestPhase Access Refresh) :
    (phase.release token).isRefreshing = phase.isRefreshing := by cases phase <;> rfl

lemma isRefreshing_of_awaits {phase : RequestPhase Access Refresh} (h : phase.awaits) :
    phase.isRefreshing = false := by
  cases phase <;> first | rfl | cases h

end RequestPhase

namespace Tab

variable {Access Refresh User : Type}

section

variable (b : Tab Access Refresh User)

/-- The call of `/auth/refresh` of the `i`-th request is outstanding. -/
def outstanding (i : Nat) : Bool := (b.phase? i).any RequestPhase.isRefreshing

/-- The `i`-th request has started a refresh, and its retry is outstanding. -/
def starterRetries (i : Nat) : Bool := (b.phase? i).any RequestPhase.isStarterRetry

/-- The flag is set exactly while a refresh is outstanding, there is only one at a time, and no
401 is queued when there is none. -/
structure FlagTellsTruth : Prop where
  flag : b.isRefreshing ↔ ∃ i, b.outstanding i
  single : ∀ i j, b.outstanding i → b.outstanding j → i = j
  queue : ∀ i behind, (b.handle401 i).phase? i = some (.queued behind) → ∃ j, b.outstanding j

/-- The event neither cancels a request whose refresh is outstanding nor fails the retry of a
request that had started a refresh while the flag is set again. -/
def keepsFlag : TabEvent Access Refresh User → Bool
  | .cancel i => !b.outstanding i
  | .responded i (.error _) => !(b.starterRetries i && b.isRefreshing)
  | _ => true

end

variable {b b' : Tab Access Refresh User} {e : TabEvent Access Refresh User} {i j : Nat}
  {phase phase' : RequestPhase Access Refresh} {caller : Option Nat}

lemma outstanding_of_phase (h : b.phase? i = some phase) :
    b.outstanding i = phase.isRefreshing := by
  rw [outstanding, h]
  rfl

lemma Sends.outstanding_eq (h : b.Sends b') (i : Nat) : b'.outstanding i = b.outstanding i := by
  cases hi : b.phase? i with
  | some phase => rw [outstanding_of_phase hi, outstanding_of_phase (h.phase?_eq hi)]
  | none =>
    cases hi' : b'.phase? i with
    | none => rw [outstanding, outstanding, hi, hi']
    | some phase =>
      rcases h.phase?_cases hi' with hold | ⟨bearer, rfl⟩
      · rw [hi] at hold
        cases hold
      · rw [outstanding_of_phase hi', outstanding, hi]
        rfl

lemma outstanding_setPhase_self (h : b.phase? i = some phase) :
    (b.setPhase i phase').outstanding i = phase'.isRefreshing :=
  outstanding_of_phase (phase?_setPhase_self h)

lemma outstanding_setPhase_ne (h : j ≠ i) :
    (b.setPhase i phase').outstanding j = b.outstanding j := by
  rw [outstanding, phase?_setPhase_ne h, outstanding]

/-- A request that goes from one phase without a refresh to another. -/
lemma outstanding_setPhase (h : b.phase? i = some phase)
    (heq : phase'.isRefreshing = phase.isRefreshing) (j : Nat) :
    (b.setPhase i phase').outstanding j = b.outstanding j := by
  by_cases hj : j = i
  · subst hj
    rw [outstanding_setPhase_self h, outstanding_of_phase h, heq]
  · exact outstanding_setPhase_ne hj

/-- A 401 is queued only when the flag is set. -/
lemma isRefreshing_of_queued {behind : Nat}
    (h : (b.handle401 i).phase? i = some (.queued behind)) : b.isRefreshing := by
  by_contra hflag
  rw [handle401, if_neg hflag] at h
  rcases phase?_setPhase_cases h with ⟨-, heq⟩ | ⟨hne, -⟩
  · cases heq
  · exact hne rfl

lemma FlagTellsTruth.of_flag (hflag : b.isRefreshing ↔ ∃ i, b.outstanding i)
    (hsingle : ∀ i j, b.outstanding i → b.outstanding j → i = j) : b.FlagTellsTruth :=
  ⟨hflag, hsingle, fun _ _ h => hflag.mp (isRefreshing_of_queued h)⟩

lemma FlagTellsTruth.congr (h : b.FlagTellsTruth) (hflag : b'.isRefreshing = b.isRefreshing)
    (hout : ∀ i, b'.outstanding i = b.outstanding i) : b'.FlagTellsTruth := by
  refine .of_flag ?_ ?_
  · simp only [hflag, hout]
    exact h.flag
  · simp only [hout]
    exact h.single

/-- Nothing is outstanding any more, and the flag says so. -/
lemma FlagTellsTruth.of_none (hflag : b.isRefreshing = false)
    (hout : ∀ i, b.outstanding i = false) : b.FlagTellsTruth := by
  refine .of_flag ?_ fun i j hi => ?_
  · simp [hflag, hout]
  · rw [hout] at hi
    cases hi

lemma FlagTellsTruth.outstanding_eq_false (h : b.FlagTellsTruth) (hflag : b.isRefreshing = false)
    (i : Nat) : b.outstanding i = false := by
  by_contra hi
  rw [h.flag.mpr ⟨i, by simpa using hi⟩] at hflag
  cases hflag

lemma flagTellsTruth_initial (storage : TokenStorage Access Refresh) :
    (initial storage : Tab Access Refresh User).FlagTellsTruth :=
  .of_none rfl fun _ => rfl

lemma outstanding_started {posted : Option Refresh} {logins : Nat}
    (hrequests : b'.requests = b.requests) (h : b.phase? i = some phase) :
    (b'.setPhase i (.refreshing posted logins)).outstanding j ↔ j = i ∨ b.outstanding j := by
  have hsends : b.Sends b' := .inl hrequests
  by_cases hj : j = i
  · subst hj
    rw [outstanding_setPhase_self (hsends.phase?_eq h)]
    exact iff_of_true rfl (.inl rfl)
  · rw [outstanding_setPhase_ne hj, hsends.outstanding_eq]
    simp [hj]

/-- A 401 that is handled starts a refresh or is queued behind the one outstanding. -/
lemma FlagTellsTruth.handle401 (h : b.FlagTellsTruth) {bearer : Option Access}
    (hphase : b.phase? i = some (.sent bearer)) : (b.handle401 i).FlagTellsTruth := by
  unfold Tab.handle401
  split
  · split
    · exact h.congr rfl (outstanding_setPhase hphase rfl)
    · exact h.congr rfl (outstanding_setPhase hphase rfl)
  · next hflag =>
    have hnone := h.outstanding_eq_false (by simpa using hflag)
    refine .of_flag ?_ fun j k hj hk => ?_
    · exact iff_of_true rfl ⟨i, (outstanding_started rfl hphase).mpr (.inl rfl)⟩
    · have hj := ((outstanding_started rfl hphase).mp hj).resolve_right (by simp [hnone])
      have hk := ((outstanding_started rfl hphase).mp hk).resolve_right (by simp [hnone])
      rw [hj, hk]

/-- The logout behind a failed refresh or retry, which has cleared the flag first. -/
lemma sends_clear (b : Tab Access Refresh User) (caller : Option Nat) :
    b.Sends (({ b with isRefreshing := false } : Tab Access Refresh User).logout caller) :=
  sends_logout { b with isRefreshing := false } caller

/-- The error of a refresh, or of a retry, ends the request and what it has outstanding. -/
lemma outstanding_catchRefreshError {error : HttpErrorResponse} (h : b.phase? i = some phase)
    (j : Nat) : (b.catchRefreshError i error).outstanding j = (b.outstanding j && j ≠ i) := by
  have hsends := sends_clear b (some i)
  by_cases hj : j = i
  · subst hj
    rw [catchRefreshError, outstanding_setPhase_self (hsends.phase?_eq h)]
    simp [RequestPhase.isRefreshing]
  · rw [catchRefreshError, outstanding_setPhase_ne hj, hsends.outstanding_eq]
    simp [hj]

lemma outstanding_refreshSucceeded {accessToken : Access} {refreshToken : Refresh} {logins : Nat}
    (h : b.phase? i = some phase) (j : Nat) :
    (b.refreshSucceeded i accessToken refreshToken logins).outstanding j =
      (b.outstanding j && j ≠ i) := by
  by_cases hj : j = i
  · subst hj
    rw [outstanding_of_phase (phase?_refreshSucceeded_self h)]
    simp [RequestPhase.isRefreshing]
  · rw [outstanding, phase?_refreshSucceeded b i accessToken refreshToken logins hj, outstanding]
    cases b.phase? j <;> simp [hj]

/-- Beside the refresh of a request no other one is outstanding. -/
lemma FlagTellsTruth.no_other (h : b.FlagTellsTruth) {posted : Option Refresh} {logins : Nat}
    (hphase : b.phase? i = some (.refreshing posted logins)) (j : Nat) :
    (b.outstanding j && j ≠ i) = false := by
  by_contra hj
  simp only [Bool.not_eq_false, Bool.and_eq_true, decide_eq_true_eq] at hj
  have hi : b.outstanding i := by
    rw [outstanding_of_phase hphase]
    rfl
  exact hj.2 (h.single j i hj.1 hi)

/-- A step keeps the flag true to the refreshes outstanding exactly when it is not one of the two
that break it. -/
theorem Steps.flagTellsTruth_iff (h : Steps b e b') (hb : b.FlagTellsTruth) :
    b'.FlagTellsTruth ↔ b.keepsFlag e := by
  cases h with
  | nothing => exact iff_of_true hb rfl
  | send | restore | login | register =>
    exact iff_of_true (hb.congr rfl (sends_subscribe b _).outstanding_eq) rfl
  | logout =>
    exact iff_of_true (hb.congr (isRefreshing_logout b none) (sends_logout b none).outstanding_eq)
      rfl
  | @succeeded i body phase hphase hawaits =>
    refine iff_of_true (hb.congr (isRefreshing_tap _ _) fun j => ?_) rfl
    rw [outstanding, phase?_tap]
    refine outstanding_setPhase hphase ?_ j
    rw [RequestPhase.isRefreshing_of_awaits hawaits]
    rfl
  | @failed i error call bearer hrequest hcatches =>
    have hphase := phase?_of_request hrequest
    refine iff_of_true (hb.congr rfl (outstanding_setPhase hphase rfl)) ?_
    simp [keepsFlag, starterRetries, hphase, RequestPhase.isStarterRetry]
  | @caught i error call bearer hrequest hcatches =>
    have hphase := phase?_of_request hrequest
    refine iff_of_true (hb.handle401 hphase) ?_
    simp [keepsFlag, starterRetries, hphase, RequestPhase.isStarterRetry]
  | @starterFailed i error token hphase =>
    have hout : ∀ j, (b.catchRefreshError i error).outstanding j = b.outstanding j := by
      intro j
      rw [outstanding_catchRefreshError hphase]
      by_cases hj : j = i
      · subst hj
        simp [outstanding_of_phase hphase, RequestPhase.isRefreshing]
      · simp [hj]
    have hflag' : (b.catchRefreshError i error).isRefreshing = false :=
      isRefreshing_logout _ (some i)
    simp only [keepsFlag, starterRetries, hphase, Option.any_some, RequestPhase.isStarterRetry,
      Bool.true_and, Bool.not_eq_true']
    constructor
    · intro hb'
      -- with the flag set before, the refresh of another request would be outstanding
      by_contra hflag
      obtain ⟨j, hj⟩ := hb.flag.mp (by simpa using hflag)
      rw [hb'.flag.mpr ⟨j, by rwa [hout]⟩] at hflag'
      cases hflag'
    · intro hflag
      exact hb.congr (hflag'.trans hflag.symm) hout
  | @retryFailed i error token behind hphase =>
    refine iff_of_true (hb.congr rfl (outstanding_setPhase hphase rfl)) ?_
    simp [keepsFlag, starterRetries, hphase, RequestPhase.isStarterRetry]
  | @refreshed i accessToken refreshToken posted logins hphase =>
    refine iff_of_true (.of_none rfl fun j => ?_) rfl
    rw [outstanding_refreshSucceeded hphase]
    exact hb.no_other hphase j
  | @refreshFailed i error posted logins hphase =>
    refine iff_of_true (.of_none (isRefreshing_logout _ (some i)) fun j => ?_) rfl
    rw [outstanding_catchRefreshError hphase]
    exact hb.no_other hphase j
  | @cancelled i phase hphase hopen =>
    simp only [keepsFlag, Bool.not_eq_true', outstanding_of_phase hphase]
    constructor
    · intro hb'
      -- otherwise the flag stays set and the refresh is gone
      by_contra hrefreshing
      have hi : b.outstanding i := by
        rw [outstanding_of_phase hphase]
        simpa using hrefreshing
      obtain ⟨j, hj⟩ := hb'.flag.mp (hb.flag.mpr ⟨i, hi⟩)
      by_cases hji : j = i
      · subst hji
        rw [outstanding_setPhase_self hphase] at hj
        cases hj
      · rw [outstanding_setPhase_ne hji] at hj
        exact hji (hb.single j i hj hi)
    · intro hrefreshing
      exact hb.congr rfl (outstanding_setPhase hphase hrefreshing.symm)

/-- In every state of a run the flag tells the truth if and only if no step of the run cancels a
request whose refresh is outstanding or fails the retry of a request that had started a refresh
while another refresh is outstanding. -/
theorem flagTellsTruth_run_iff {storage : TokenStorage Access Refresh}
    {es : List (TabEvent Access Refresh User)}
    (h : Machine.exec step (initial storage) es = some b) :
    (∀ fs t, fs <+: es → Machine.exec step (initial storage) fs = some t → t.FlagTellsTruth) ↔
      Machine.Guarded step (fun t e => t.keepsFlag e = true) (initial storage) es :=
  Machine.exec_invariant_iff step (J := fun _ => True) (fun _ _ _ _ _ => trivial)
    (fun _ _ _ _ hI h => (step_cases h).flagTellsTruth_iff hI) trivial
    (flagTellsTruth_initial storage) h

end Tab

/-! ### The page of a ticket with an expired access token -/

namespace Seed

/-- What is left in the storage of an earlier visit. -/
def storage : TokenStorage Nat Nat := ⟨some 1, some 1⟩

def expired : HttpErrorResponse := ⟨401, "Unauthorized"⟩

def serverError : HttpErrorResponse := ⟨500, "Internal server error"⟩

/-- The ticket and its comments are requested together. -/
def ticketPage : List (TabEvent Nat Nat Nat) :=
  [.send "/api/tickets/140", .send "/api/tickets/140/comments", .responded 0 (.error expired)]

/-- The refresh succeeds, and so do both requests. -/
def ticketShown : List (TabEvent Nat Nat Nat) :=
  ticketPage ++
    [.refreshed 0 (.ok (2, 2)), .responded 1 (.ok .data), .responded 0 (.ok .data)]

/-- The comments fail, so `forkJoin` unsubscribes from the ticket. -/
def ticketAbandoned : List (TabEvent Nat Nat Nat) :=
  ticketPage ++ [.responded 1 (.error serverError), .cancel 0]

end Seed

theorem flagTellsTruth_run_iff_ticketShown :
    ∃ b, Machine.exec Tab.step (Tab.initial Seed.storage) Seed.ticketShown = some b ∧
      b.requests.length = 2 ∧ b.FlagTellsTruth := by
  have hrun : (Machine.exec Tab.step (Tab.initial Seed.storage) Seed.ticketShown).any
      fun b => b.requests.length = 2 := by decide
  obtain ⟨b, hb, hlength⟩ := Machine.exists_of_any hrun
  refine ⟨b, hb, hlength, ?_⟩
  exact (Tab.flagTellsTruth_run_iff hb).mpr (by decide) _ b (List.prefix_refl _) hb

theorem not_flagTellsTruth_ticketAbandoned :
    ¬∀ (es : List (TabEvent Nat Nat Nat)) (b : Tab Nat Nat Nat),
      Machine.exec Tab.step (Tab.initial Seed.storage) es = some b → b.FlagTellsTruth := by
  intro h
  have hrun : (Machine.exec Tab.step (Tab.initial Seed.storage) Seed.ticketAbandoned).any
      fun b => b.isRefreshing ∧ b.requests.all fun r => !r.phase.isRefreshing := by decide
  obtain ⟨b, hb, hflag, hnone⟩ := Machine.exists_of_any hrun
  obtain ⟨i, hi⟩ := (h _ b hb).flag.mp hflag
  obtain ⟨phase, hphase, hrefreshing⟩ := (Option.any_eq_true _ _).mp hi
  obtain ⟨call, hr⟩ := Tab.exists_request hphase
  have hfalse := List.all_eq_true.mp hnone _ (List.mem_of_getElem? hr)
  rw [hrefreshing] at hfalse
  cases hfalse

end SupportPlatform
