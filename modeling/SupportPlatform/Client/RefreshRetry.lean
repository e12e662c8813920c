import SupportPlatform.Client.RefreshFlag

/-!
# The retry behind a refresh

A request is retried on two paths: behind the refresh it has started itself, and out of the queue.
On the first path the error handler of the refresh also catches the errors of the retry, so the
user is logged out although the refresh succeeded.
-/

namespace SupportPlatform

namespace Tab

variable {Access Refresh User : Type}

/-- In a step, `logout` is called for a request that has started a refresh exactly if this refresh
fails. When its retry fails the caller gets the error, the session stays in place, and the step
ends as it would for a request that had been queued. -/
structure EndsWithRefresh (b : Tab Access Refresh User) (e : TabEvent Access Refresh User)
    (b' : Tab Access Refresh User) : Prop where
  refresh : ∀ i result, e = .refreshed i result →
    (b'.logouts ≠ b.logouts ↔ ∃ error, result = .error error)
  retry : ∀ i result, e = .responded i result → b.starterRetries i → b'.logouts = b.logouts
  told : ∀ i error, e = .responded i (.error error) → b.starterRetries i →
    b'.phase? i = some (.failed error)
  kept : ∀ i error, e = .responded i (.error error) → b.starterRetries i →
    b'.storage = b.storage ∧ b'.user = b.user
  same : ∀ i error token behind, e = .responded i (.error error) → b.starterRetries i →
    (b.setPhase i (.retried token (some behind))).step e = some b'

/-- The event fails the retry of a request that has started a refresh. -/
def failsStarter (b : Tab Access Refresh User) : TabEvent Access Refresh User → Bool
  | .responded i (.error _) => b.starterRetries i
  | _ => false

variable {b b' : Tab Access Refresh User} {e : TabEvent Access Refresh User} {i : Nat}
  {phase : RequestPhase Access Refresh}

lemma starterRetries_of_phase (h : b.phase? i = some phase) :
    b.starterRetries i = phase.isStarterRetry := by
  rw [starterRetries, h]
  rfl

@[simp] lemma logouts_logout (b : Tab Access Refresh User) (caller : Option Nat) :
    (b.logout caller).logouts = b.logouts ++ [caller] := rfl

@[simp] lemma logouts_tap (b : Tab Access Refresh User) (body : Body Access Refresh User) :
    (b.tap body).logouts = b.logouts := by cases body <;> rfl

@[simp] lemma logouts_catchRefreshError (b : Tab Access Refresh User) (i : Nat)
    (error : HttpErrorResponse) :
    (b.catchRefreshError i error).logouts = b.logouts ++ [some i] := rfl

/-- An event that does not answer the retry behind a refresh. -/
lemma EndsWithRefresh.of_other
    (hrefresh : ∀ i result, e = .refreshed i result →
      (b'.logouts ≠ b.logouts ↔ ∃ error, result = .error error))
    (hretry : ∀ i result, e = .responded i result → b.starterRetries i = false) :
    b.EndsWithRefresh e b' where
  refresh := hrefresh
  retry i result he hi := by simp [hretry i result he] at hi
  told i error he hi := by simp [hretry i _ he] at hi
  kept i error he hi := by simp [hretry i _ he] at hi
  same i error token behind he hi := by simp [hretry i _ he] at hi

/-- An answer to a request that has not started a refresh. -/
lemma EndsWithRefresh.of_answer {result : Except HttpErrorResponse (Body Access Refresh User)}
    (hi : b.starterRetries i = false) : b.EndsWithRefresh (.responded i result) b' := by
  refine .of_other (fun _ _ he => by cases he) fun _ _ he => ?_
  cases he
  exact hi

/-- A step ends the session of a request that has started a refresh only with this refresh, if and
only if it does not fail the retry behind it. -/
theorem endsWithRefresh_iff (h : b.step e = some b') :
    b.EndsWithRefresh e b' ↔ ¬b.failsStarter e := by
  have hsteps := step_cases h
  clear h
  cases hsteps with
  | @starterFailed i error token hphase =>
    have hi : b.starterRetries i = true := starterRetries_of_phase hphase
    refine iff_of_false (fun hends => ?_) (fun hnot => hnot hi)
    -- the handler of the refresh has caught the error of the retry
    have hsame := hends.retry i (.error error) rfl hi
    simp at hsame
  | @succeeded i body phase hphase hawaits =>
    refine iff_of_true ?_ (by simp [failsStarter])
    exact
      { refresh := fun _ _ he => by cases he
        retry := fun _ _ _ _ => logouts_tap _ _
        told := fun _ _ he => by cases he
        kept := fun _ _ he => by cases he
        same := fun _ _ _ _ he => by cases he }
  | @refreshed i accessToken refreshToken posted logins hphase =>
    refine iff_of_true (.of_other (fun _ _ he => ?_) fun _ _ he => by cases he)
      (by simp [failsStarter])
    cases he
    exact iff_of_false (fun hne => hne rfl) (by rintro ⟨_, ⟨⟩⟩)
  | @refreshFailed i error posted logins hphase =>
    refine iff_of_true (.of_other (fun _ _ he => ?_) fun _ _ he => by cases he)
      (by simp [failsStarter])
    cases he
    exact iff_of_true (by simp) ⟨error, rfl⟩
  | @failed i error call bearer hrequest hcatches =>
    have hi : b.starterRetries i = false := starterRetries_of_phase (phase?_of_request hrequest)
    exact iff_of_true (.of_answer hi) (by simp [failsStarter, hi])
  | @caught i error call bearer hrequest hcatches =>
    have hi : b.starterRetries i = false := starterRetries_of_phase (phase?_of_request hrequest)
    exact iff_of_true (.of_answer hi) (by simp [failsStarter, hi])
  | @retryFailed i error token behind hphase =>
    have hi : b.starterRetries i = false := starterRetries_of_phase hphase
    exact iff_of_true (.of_answer hi) (by simp [failsStarter, hi])
  | _ =>
    exact iff_of_true (.of_other (fun _ _ he => by cases he) fun _ _ he => by cases he)
      (by simp [failsStarter])

end Tab

namespace Seed

/-- The session is restored, and the request for a ticket is retried behind its refresh. -/
def ticketRetried : List (TabEvent Nat Nat Nat) :=
  [.restoreSession, .responded 0 (.ok (.profile 1)), .send "/api/tickets/140",
    .responded 1 (.error expired), .refreshed 1 (.ok (2, 2))]

def notFound : HttpErrorResponse := ⟨404, "Ticket not found"⟩

end Seed

theorem endsWithRefresh_iff_answered :
    ∃ b b', Machine.exec Tab.step (Tab.initial Seed.storage) Seed.ticketRetried = some b ∧
      b.step (.responded 1 (.ok .data)) = some b' ∧
        b.EndsWithRefresh (.responded 1 (.ok .data)) b' :=
  ⟨_, _, rfl, rfl, (Tab.endsWithRefresh_iff rfl).mpr (by decide)⟩

theorem not_endsWithRefresh_notFound :
    ¬∀ (es : List (TabEvent Nat Nat Nat)) (b b' : Tab Nat Nat Nat) (e : TabEvent Nat Nat Nat),
      Machine.exec Tab.step (Tab.initial Seed.storage) es = some b → b.step e = some b' →
        b.EndsWithRefresh e b' := by
  intro h
  have hends := h Seed.ticketRetried _ _ (.responded 1 (.error Seed.notFound)) rfl rfl
  have hkept := (hends.kept 1 Seed.notFound rfl rfl).2
  cases hkept

end SupportPlatform
