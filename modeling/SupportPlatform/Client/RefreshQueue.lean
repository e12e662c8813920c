import SupportPlatform.Client.RefreshFlag

/-!
# The requests queued behind a refresh

A request that gets a 401 while `isRefreshing` is set waits on `refreshedToken$` for the next
token, whichever refresh it comes from. Nothing tells it that its own refresh has failed.
-/

namespace SupportPlatform

namespace RequestPhase

variable {Access Refresh : Type}

/-- The refresh that the request is queued behind. -/
def behind? : RequestPhase Access Refresh → Option Nat
  | queued behind => some behind
  | _ => none

/-- The request is queued, or was until it was released with a token. -/
def hasQueued : RequestPhase Access Refresh → Bool
  | queued _ | retried _ (some _) => true
  | _ => false

/-- The answer to the first attempt is outstanding. -/
def isFirst : RequestPhase Access Refresh → Bool
  | sent _ => true
  | _ => false

end RequestPhase

namespace Tab

variable {Access Refresh User : Type}

section

variable (b : Tab Access Refresh User)

/-- What is queued behind a refresh is so only while the refresh is outstanding, and is released
with the token of this refresh. -/
structure QueueBelongs : Prop where
  queued : ∀ i behind, b.phase? i = some (.queued behind) → b.outstanding behind
  released : ∀ i token behind, b.phase? i = some (.retried token (some behind)) →
    token.refresh = behind

/-- A request is queued behind a refresh with the property. -/
def anyQueued (p : Nat → Bool) : Bool := b.requests.any fun r => r.phase.behind?.any p

/-- An error of the first attempt of the `i`-th request puts it into the queue. -/
def queues (i : Nat) (error : HttpErrorResponse) : Bool :=
  b.isRefreshing && b.requests[i]?.any fun r => r.phase.isFirst && b.catches r.call error

/-- A refresh that succeeds has no request of another refresh queued, one that fails or is
cancelled has none of its own queued, and no request is queued on a flag that a cancelled refresh
has left behind. -/
def keepsQueue : TabEvent Access Refresh User → Bool
  | .refreshed i (.ok _) => !b.anyQueued (· ≠ i)
  | .refreshed i (.error _) => !b.anyQueued (· = i)
  | .cancel i => !(b.outstanding i && b.anyQueued (· = i))
  | .responded i (.error error) => !b.queues i error || b.outstanding b.refresher
  | _ => true

end

variable {b b' : Tab Access Refresh User} {e : TabEvent Access Refresh User} {i j : Nat}
  {phase phase' : RequestPhase Access Refresh}

lemma anyQueued_iff {p : Nat → Bool} :
    b.anyQueued p ↔ ∃ i behind, b.phase? i = some (.queued behind) ∧ p behind := by
  rw [anyQueued, List.any_eq_true]
  constructor
  · rintro ⟨⟨call, phase⟩, hr, hp⟩
    obtain ⟨i, hi⟩ := List.mem_iff_getElem?.mp hr
    cases phase with
    | queued behind => exact ⟨i, behind, phase?_of_request hi, hp⟩
    | _ => cases hp
  · rintro ⟨i, behind, hi, hp⟩
    obtain ⟨call, hr⟩ := exists_request hi
    exact ⟨_, List.mem_of_getElem? hr, hp⟩

lemma anyQueued_eq_false {p : Nat → Bool} (h : b.anyQueued p = false) {behind : Nat}
    (hi : b.phase? i = some (.queued behind)) : p behind = false := by
  by_contra hp
  rw [anyQueued_iff.mpr ⟨i, behind, hi, by simpa using hp⟩] at h
  cases h

/-- Nothing is put into the queue or released, and the refreshes that are waited for go on. -/
lemma QueueBelongs.congr (h : b.QueueBelongs)
    (hphase : ∀ i phase, phase.hasQueued → b'.phase? i = some phase → b.phase? i = some phase)
    (hout : ∀ i behind, b.phase? i = some (.queued behind) → b'.phase? i = some (.queued behind) →
      b.outstanding behind → b'.outstanding behind) : b'.QueueBelongs where
  queued i behind hi :=
    have hi' := hphase i _ rfl hi
    hout i behind hi' hi (h.queued i behind hi')
  released i token behind hi := h.released i token behind (hphase i _ rfl hi)

lemma QueueBelongs.sends (h : b.QueueBelongs) (hsends : b.Sends b') : b'.QueueBelongs := by
  refine h.congr (fun i phase hqueued hi => ?_) fun i behind _ _ hout => ?_
  · rcases hsends.phase?_cases hi with hi | ⟨bearer, rfl⟩
    · exact hi
    · cases hqueued
  · rwa [hsends.outstanding_eq]

/-- A request that was not refreshing goes to a phase outside the queue. -/
lemma QueueBelongs.setPhase (h : b.QueueBelongs) (hi : b.phase? i = some phase)
    (hphase : phase.isRefreshing = false) (hqueued : phase'.hasQueued = false) :
    (b.setPhase i phase').QueueBelongs := by
  refine h.congr (fun j q hq hj => ?_) fun j behind _ _ hout => ?_
  · rcases phase?_setPhase_cases hj with ⟨-, rfl⟩ | ⟨-, hj⟩
    · rw [hqueued] at hq
      cases hq
    · exact hj
  · rwa [outstanding_setPhase_ne]
    rintro rfl
    rw [outstanding_of_phase hi, hphase] at hout
    cases hout

lemma queueBelongs_initial (storage : TokenStorage Access Refresh) :
    (initial storage : Tab Access Refresh User).QueueBelongs :=
  ⟨fun _ _ h => (by cases h), fun _ _ _ h => by cases h⟩

/-! ### No token is published while the flag is set -/

/-- The value of `refreshedToken$` while a refresh is under way. -/
def Unpublished (b : Tab Access Refresh User) : Prop := b.isRefreshing → b.refreshedToken = none

lemma Unpublished.handle401 (h : b.Unpublished) : (b.handle401 i).Unpublished := by
  unfold Tab.handle401
  split
  · split <;> exact h
  · exact fun _ => rfl

lemma Steps.unpublished (h : Steps b e b') (hb : b.Unpublished) : b'.Unpublished := by
  cases h with
  | logout =>
    rw [Unpublished, isRefreshing_logout, refreshedToken_logout]
    exact hb
  | succeeded _ _ =>
    rw [Unpublished, isRefreshing_tap, refreshedToken_tap]
    exact hb
  | caught _ _ => exact hb.handle401
  | @starterFailed i error token hphase =>
    exact fun hflag => absurd hflag (by simp [catchRefreshError, setPhase])
  | @refreshFailed i error posted logins hphase =>
    exact fun hflag => absurd hflag (by simp [catchRefreshError, setPhase])
  | refreshed _ => exact fun hflag => by cases hflag
  | _ => exact hb

/-! ### Steps and runs -/

lemma phase?_catchRefreshError_cases {error : HttpErrorResponse}
    (h : (b.catchRefreshError i error).phase? j = some phase) :
    phase = .failed error ∨ (∃ bearer, phase = .sent bearer) ∨
      (j ≠ i ∧ b.phase? j = some phase) := by
  rcases phase?_setPhase_cases h with ⟨-, rfl⟩ | ⟨hne, hj⟩
  · exact .inl rfl
  · rcases (sends_clear b (some i)).phase?_cases hj with hj | hsent
    · exact .inr (.inr ⟨hne, hj⟩)
    · exact .inr (.inl hsent)

/-- An error of the `i`-th request ends its own refresh, and no other. -/
lemma QueueBelongs.catchRefreshError_iff (h : b.QueueBelongs) {error : HttpErrorResponse}
    (hphase : b.phase? i = some phase) (hqueued : phase.behind? = none) :
    (b.catchRefreshError i error).QueueBelongs ↔ ¬(b.outstanding i ∧ b.anyQueued (· = i)) := by
  constructor
  · rintro h' ⟨-, hany⟩
    obtain ⟨j, behind, hj, heq⟩ := anyQueued_iff.mp hany
    obtain rfl := of_decide_eq_true heq
    have hne : j ≠ behind := by
      rintro rfl
      obtain rfl := Option.some.inj (hphase.symm.trans hj)
      cases hqueued
    have hj' : (b.catchRefreshError behind error).phase? j = some (.queued behind) := by
      rw [catchRefreshError, phase?_setPhase_ne hne]
      exact (sends_clear b (some behind)).phase?_eq hj
    have hout := h'.queued j behind hj'
    rw [outstanding_catchRefreshError hphase] at hout
    simp at hout
  · intro hnot
    refine h.congr (fun j q hq hj => ?_) fun j behind hj hj' hout => ?_
    · rcases phase?_catchRefreshError_cases hj with rfl | ⟨bearer, rfl⟩ | ⟨-, hj⟩
      · cases hq
      · cases hq
      · exact hj
    · rw [outstanding_catchRefreshError hphase, hout, Bool.true_and, decide_eq_true_eq]
      rintro rfl
      exact hnot ⟨hout, anyQueued_iff.mpr ⟨j, behind, hj, by simp⟩⟩

lemma QueueBelongs.handle401_iff (h : b.QueueBelongs) (hb : b.Unpublished)
    {bearer : Option Access} (hphase : b.phase? i = some (.sent bearer)) :
    (b.handle401 i).QueueBelongs ↔ (b.isRefreshing → b.outstanding b.refresher) := by
  unfold Tab.handle401
  split
  · next hflag =>
    rw [hb hflag]
    dsimp only
    constructor
    · intro h' _
      have hout := h'.queued i b.refresher (phase?_setPhase_self hphase)
      by_cases hi : b.refresher = i
      · rw [hi, outstanding_setPhase_self hphase] at hout
        cases hout
      · rwa [outstanding_setPhase_ne hi] at hout
    · intro hrefresher
      have hkept : ∀ j, b.outstanding j → (b.setPhase i (.queued b.refresher)).outstanding j := by
        intro j hj
        refine (outstanding_setPhase hphase ?_ j).trans hj
        rfl
      constructor
      · intro j behind hj
        rcases phase?_setPhase_cases hj with ⟨-, heq⟩ | ⟨-, hj⟩
        · cases heq
          exact hkept _ (hrefresher hflag)
        · exact hkept _ (h.queued j behind hj)
      · intro j token behind hj
        rcases phase?_setPhase_cases hj with ⟨-, heq⟩ | ⟨-, hj⟩
        · cases heq
        · exact h.released j token behind hj
  · next hflag =>
    refine iff_of_true (h.congr (fun j q hq hj => ?_) fun j behind _ _ hout => ?_)
      fun hset => absurd hset hflag
    · rcases phase?_setPhase_cases hj with ⟨-, rfl⟩ | ⟨-, hj⟩
      · cases hq
      · exact hj
    · exact (outstanding_started rfl hphase).mpr (.inr hout)

/-- The tokens of a refresh release all that is queued. -/
lemma QueueBelongs.refreshSucceeded_iff (h : b.QueueBelongs) {accessToken : Access}
    {refreshToken : Refresh} {logins : Nat} (hphase : b.phase? i = some phase)
    (hqueued : phase.behind? = none) :
    (b.refreshSucceeded i accessToken refreshToken logins).QueueBelongs ↔
      b.anyQueued (· ≠ i) = false := by
  have hi : (b.refreshSucceeded i accessToken refreshToken logins).phase? i =
      some (.retried ⟨accessToken, i⟩ none) := phase?_refreshSucceeded_self hphase
  constructor
  · intro h'
    by_contra hany
    obtain ⟨j, behind, hj, hne⟩ := anyQueued_iff.mp (by simpa using hany)
    have hji : j ≠ i := by
      rintro rfl
      obtain rfl := Option.some.inj (hphase.symm.trans hj)
      cases hqueued
    have hreleased := phase?_refreshSucceeded b i accessToken refreshToken logins hji
    rw [hj] at hreleased
    exact absurd (h'.released j _ behind hreleased).symm (by simpa using hne)
  · intro hnone
    have hold : ∀ j q, (b.refreshSucceeded i accessToken refreshToken logins).phase? j = some q →
        j = i ∧ q = .retried ⟨accessToken, i⟩ none ∨
          ∃ p, b.phase? j = some p ∧ q = p.release ⟨accessToken, i⟩ := by
      intro j q hj
      by_cases hji : j = i
      · subst hji
        exact .inl ⟨rfl, Option.some.inj (hj.symm.trans hi)⟩
      · rw [phase?_refreshSucceeded b i accessToken refreshToken logins hji] at hj
        obtain ⟨p, hp, rfl⟩ := Option.map_eq_some_iff.mp hj
        exact .inr ⟨p, hp, rfl⟩
    constructor
    · intro j behind hj
      rcases hold j _ hj with ⟨-, heq⟩ | ⟨p, hp, heq⟩
      · cases heq
      · cases p <;> cases heq
    · intro j token behind hj
      rcases hold j _ hj with ⟨-, heq⟩ | ⟨p, hp, heq⟩
      · cases heq
      · cases p with
        | queued behind' =>
          cases heq
          have hbehind := anyQueued_eq_false hnone hp
          exact (by simpa using hbehind : behind = i).symm
        | retried token' behind' =>
          cases heq
          exact h.released j token behind hp
        | _ => cases heq

/-- A step leaves every queued request with its own refresh exactly when it meets the condition. -/
theorem Steps.queueBelongs_iff (h : Steps b e b') (hb : b.Unpublished) (hqueue : b.QueueBelongs) :
    b'.QueueBelongs ↔ b.keepsQueue e := by
  cases h with
  | nothing => exact iff_of_true hqueue rfl
  | send | restore | login | register =>
    exact iff_of_true (hqueue.sends (sends_subscribe b _)) rfl
  | logout => exact iff_of_true (hqueue.sends (sends_logout b none)) rfl
  | @succeeded i body phase hphase hawaits =>
    refine iff_of_true ?_ rfl
    have hset : (b.setPhase i .succeeded).QueueBelongs :=
      hqueue.setPhase hphase (RequestPhase.isRefreshing_of_awaits hawaits) rfl
    refine hset.congr (fun j q _ hj => by rwa [phase?_tap] at hj) fun j behind _ _ hout => ?_
    rwa [outstanding, phase?_tap]
  | @failed i error call bearer hrequest hcatches =>
    refine iff_of_true (hqueue.setPhase (phase?_of_request hrequest) rfl rfl) ?_
    simp [keepsQueue, queues, hrequest, hcatches]
  | @caught i error call bearer hrequest hcatches =>
    rw [hqueue.handle401_iff hb (phase?_of_request hrequest)]
    simp only [keepsQueue, queues, hrequest, Option.any_some, RequestPhase.isFirst, hcatches,
      Bool.and_true]
    cases b.isRefreshing <;> simp
  | @starterFailed i error token hphase =>
    rw [hqueue.catchRefreshError_iff hphase rfl]
    obtain ⟨call, hr⟩ := exists_request hphase
    simp [keepsQueue, queues, hr, RequestPhase.isFirst, outstanding_of_phase hphase,
      RequestPhase.isRefreshing]
  | @retryFailed i error token behind hphase =>
    obtain ⟨call, hr⟩ := exists_request hphase
    refine iff_of_true (hqueue.setPhase hphase rfl rfl) ?_
    simp [keepsQueue, queues, hr, RequestPhase.isFirst]
  | @refreshed i accessToken refreshToken posted logins hphase =>
    rw [hqueue.refreshSucceeded_iff hphase rfl, keepsQueue, Bool.not_eq_true']
  | @refreshFailed i error posted logins hphase =>
    rw [hqueue.catchRefreshError_iff hphase rfl]
    simp [keepsQueue, outstanding_of_phase hphase, RequestPhase.isRefreshing]
  | @cancelled i phase hphase hopen =>
    simp only [keepsQueue, Bool.not_eq_true', Bool.and_eq_false_iff]
    constructor
    · intro h'
      by_contra hboth
      obtain ⟨hout, hany⟩ : b.outstanding i = true ∧ b.anyQueued (· = i) = true := by
        simpa [not_or] using hboth
      obtain ⟨j, behind, hj, heq⟩ := anyQueued_iff.mp hany
      obtain rfl := of_decide_eq_true heq
      have hne : j ≠ behind := by
        rintro rfl
        rw [outstanding_of_phase hj] at hout
        cases hout
      have hgone := h'.queued j behind (by rwa [phase?_setPhase_ne hne])
      rw [outstanding_setPhase_self hphase] at hgone
      cases hgone
    · intro hnot
      refine hqueue.congr (fun j q hq hj => ?_) fun j behind hj hj' hout => ?_
      · rcases phase?_setPhase_cases hj with ⟨-, rfl⟩ | ⟨-, hj⟩
        · cases hq
        · exact hj
      · rw [outstanding_setPhase_ne]
        · exact hout
        · rintro rfl
          rcases hnot with hnot | hnot
          · rw [hnot] at hout
            cases hout
          · exact absurd (anyQueued_eq_false hnot hj) (by simp)

/-- In every state of a run all queued requests wait for a refresh that is outstanding, and all
released ones have its token, if and only if all steps of the run meet the condition. -/
theorem queueBelongs_run_iff {storage : TokenStorage Access Refresh}
    {es : List (TabEvent Access Refresh User)}
    (h : Machine.exec step (initial storage) es = some b) :
    (∀ fs t, fs <+: es → Machine.exec step (initial storage) fs = some t → t.QueueBelongs) ↔
      Machine.Guarded step (fun t e => t.keepsQueue e = true) (initial storage) es :=
  Machine.exec_invariant_iff step (J := Unpublished)
    (fun _ _ _ hJ h => (step_cases h).unpublished hJ)
    (fun _ _ _ hJ hI h => (step_cases h).queueBelongs_iff hJ hI) (fun hflag => by cases hflag)
    (queueBelongs_initial storage) h

end Tab

namespace Seed

/-- Both requests of the page get a 401, so the second one is queued behind the refresh. -/
def ticketQueued : List (TabEvent Nat Nat Nat) := ticketPage ++ [.responded 1 (.error expired)]

/-- The refresh succeeds, and the retry of the comments does. -/
def ticketReleased : List (TabEvent Nat Nat Nat) :=
  ticketQueued ++ [.refreshed 0 (.ok (2, 2)), .responded 1 (.ok .data)]

/-- The refresh fails, so the first user is logged out. A second user logs in, and a refresh of
this session releases the request for the comments. -/
def ticketStranded : List (TabEvent Nat Nat Nat) :=
  ticketQueued ++
    [.refreshed 0 (.error expired), .login, .responded 3 (.ok (.session 10 10 2)),
      .send "/api/tickets", .responded 4 (.error expired), .refreshed 4 (.ok (11, 11))]

end Seed

theorem queueBelongs_run_iff_ticketReleased :
    ∃ b, Machine.exec Tab.step (Tab.initial Seed.storage) Seed.ticketReleased = some b ∧
      b.phase? 1 = some .succeeded ∧ b.QueueBelongs := by
  have hrun : (Machine.exec Tab.step (Tab.initial Seed.storage) Seed.ticketReleased).any
      fun b => b.phase? 1 = some .succeeded := by decide
  obtain ⟨b, hb, hphase⟩ := Machine.exists_of_any hrun
  refine ⟨b, hb, hphase, ?_⟩
  exact (Tab.queueBelongs_run_iff hb).mpr (by decide) _ b (List.prefix_refl _) hb

theorem not_queueBelongs_ticketStranded :
    ¬∀ (es : List (TabEvent Nat Nat Nat)) (b : Tab Nat Nat Nat),
      Machine.exec Tab.step (Tab.initial Seed.storage) es = some b → b.QueueBelongs := by
  intro h
  have hrun : (Machine.exec Tab.step (Tab.initial Seed.storage) Seed.ticketStranded).any
      fun b => b.phase? 1 = some (.retried ⟨11, 4⟩ (some 0)) := by decide
  obtain ⟨b, hb, hphase⟩ := Machine.exists_of_any hrun
  have hreleased := (h _ b hb).released 1 ⟨11, 4⟩ 0 hphase
  cases hreleased

end SupportPlatform
