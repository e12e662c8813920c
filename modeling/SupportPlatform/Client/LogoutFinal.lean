import SupportPlatform.Client.RefreshFlag

/-!
# The storage after a logout

Only a login, a registration and the answer of a refresh write to the storage. A refresh is not
told that the session it belongs to is over, so its answer may fill a storage that `logout` has
cleared, or overwrite the tokens of a login.
-/

namespace SupportPlatform

namespace Tab

variable {Access Refresh User : Type}

section

variable (b : Tab Access Refresh User)

/-- The storage is empty from a logout to the next login, and what is stored was asked for after
the last login. -/
structure LogoutFinal : Prop where
  cleared : b.loggedOut → b.storage = .clear
  stored : b.storedLogins = b.logins

/-- No refresh succeeds between a logout and the next login, or with a login answered since it was
started. -/
def keepsLogout : TabEvent Access Refresh User → Bool
  | .refreshed i (.ok _) =>
    match b.phase? i with
    | some (.refreshing _ logins) => !b.loggedOut && logins = b.logins
    | _ => true
  | _ => true

end

variable {b b' : Tab Access Refresh User} {e : TabEvent Access Refresh User}

/-- The storage, and what is remembered of its last writers, is as before. -/
def SameStorage (b b' : Tab Access Refresh User) : Prop :=
  b'.storage = b.storage ∧ b'.loggedOut = b.loggedOut ∧ b'.storedLogins = b.storedLogins ∧
    b'.logins = b.logins

lemma LogoutFinal.congr (hb : b.LogoutFinal) (h : b.SameStorage b') : b'.LogoutFinal := by
  obtain ⟨hstorage, hout, hstored, hlogins⟩ := h
  constructor
  · rw [hout, hstorage]
    exact hb.cleared
  · rw [hstored, hlogins]
    exact hb.stored

lemma LogoutFinal.logout (hb : b.LogoutFinal) (caller : Option Nat) :
    (b.logout caller).LogoutFinal := by
  refine ⟨fun _ => rfl, ?_⟩
  unfold Tab.logout
  cases b.storage.refreshToken <;> exact hb.stored

lemma LogoutFinal.catchRefreshError (hb : b.LogoutFinal) (i : Nat) (error : HttpErrorResponse) :
    (b.catchRefreshError i error).LogoutFinal := by
  have hflag : ({ b with isRefreshing := false } : Tab Access Refresh User).LogoutFinal :=
    hb.congr ⟨rfl, rfl, rfl, rfl⟩
  exact (hflag.logout (some i)).congr ⟨rfl, rfl, rfl, rfl⟩

lemma sameStorage_handle401 (b : Tab Access Refresh User) (i : Nat) :
    b.SameStorage (b.handle401 i) := by
  unfold handle401
  split
  · split <;> exact ⟨rfl, rfl, rfl, rfl⟩
  · exact ⟨rfl, rfl, rfl, rfl⟩

lemma LogoutFinal.tap (hb : b.LogoutFinal) (body : Body Access Refresh User) :
    (b.tap body).LogoutFinal := by
  cases body with
  | data => exact hb
  | profile user => exact ⟨hb.cleared, hb.stored⟩
  | session accessToken refreshToken user => exact ⟨fun h => (by cases h), rfl⟩

lemma logoutFinal_initial (storage : TokenStorage Access Refresh) :
    (initial storage : Tab Access Refresh User).LogoutFinal := ⟨fun h => (by cases h), rfl⟩

theorem Steps.logoutFinal_iff (h : Steps b e b') (hb : b.LogoutFinal) :
    b'.LogoutFinal ↔ b.keepsLogout e := by
  cases h with
  | logout => exact iff_of_true (hb.logout none) rfl
  | @succeeded i body phase hphase hawaits =>
    have hset : (b.setPhase i .succeeded).LogoutFinal := hb.congr ⟨rfl, rfl, rfl, rfl⟩
    exact iff_of_true (hset.tap body) rfl
  | caught _ _ => exact iff_of_true (hb.congr (sameStorage_handle401 b _)) rfl
  | @starterFailed i error token hphase =>
    exact iff_of_true (hb.catchRefreshError i error) rfl
  | @refreshFailed i error posted logins hphase =>
    exact iff_of_true (hb.catchRefreshError i error) rfl
  | @refreshed i accessToken refreshToken posted logins hphase =>
    simp only [keepsLogout, hphase, Bool.and_eq_true, Bool.not_eq_true', decide_eq_true_eq]
    constructor
    · intro hb'
      refine ⟨?_, hb'.stored⟩
      by_contra hout
      have hset : b.loggedOut = true := by simpa using hout
      cases hb'.cleared hset
    · rintro ⟨hout, hlogins⟩
      exact ⟨fun h => (by cases hout.symm.trans h), hlogins⟩
  | _ => exact iff_of_true (hb.congr ⟨rfl, rfl, rfl, rfl⟩) rfl

/-- In every state of a run a logout and a login are final if and only if no refresh succeeds after
a logout that no login has followed, or after a login that came while it was under way. -/
theorem logoutFinal_run_iff {storage : TokenStorage Access Refresh}
    {es : List (TabEvent Access Refresh User)}
    (h : Machine.exec step (initial storage) es = some b) :
    (∀ fs t, fs <+: es → Machine.exec step (initial storage) fs = some t → t.LogoutFinal) ↔
      Machine.Guarded step (fun t e => t.keepsLogout e = true) (initial storage) es :=
  Machine.exec_invariant_iff step (J := fun _ => True) (fun _ _ _ _ _ => trivial)
    (fun _ _ _ _ hI h => (step_cases h).logoutFinal_iff hI) trivial (logoutFinal_initial storage) h

end Tab

namespace Seed

/-- The user logs out after the refresh, and a second user logs in. -/
def loggedOutAndIn : List (TabEvent Nat Nat Nat) :=
  ticketPage ++
    [.refreshed 0 (.ok (2, 2)), .logout, .login, .responded 3 (.ok (.session 10 10 2))]

/-- The user logs out while the refresh is under way. -/
def loggedOutRefreshing : List (TabEvent Nat Nat Nat) :=
  ticketPage ++ [.logout, .refreshed 0 (.ok (2, 2))]

end Seed

theorem logoutFinal_run_iff_loggedOutAndIn :
    ∃ b, Machine.exec Tab.step (Tab.initial Seed.storage) Seed.loggedOutAndIn = some b ∧
      b.storage = ⟨some 10, some 10⟩ ∧ b.LogoutFinal := by
  have hrun : (Machine.exec Tab.step (Tab.initial Seed.storage) Seed.loggedOutAndIn).any
      fun b => b.storage = ⟨some 10, some 10⟩ := by decide
  obtain ⟨b, hb, hstorage⟩ := Machine.exists_of_any hrun
  refine ⟨b, hb, hstorage, ?_⟩
  exact (Tab.logoutFinal_run_iff hb).mpr (by decide) _ b (List.prefix_refl _) hb

theorem not_logoutFinal_loggedOutRefreshing :
    ¬∀ (es : List (TabEvent Nat Nat Nat)) (b : Tab Nat Nat Nat),
      Machine.exec Tab.step (Tab.initial Seed.storage) es = some b → b.LogoutFinal := by
  intro h
  have hrun : (Machine.exec Tab.step (Tab.initial Seed.storage) Seed.loggedOutRefreshing).any
      fun b => b.loggedOut ∧ b.storage = ⟨some 2, some 2⟩ := by decide
  obtain ⟨b, hb, hout, hstorage⟩ := Machine.exists_of_any hrun
  have hcleared := (h _ b hb).cleared hout
  rw [hstorage] at hcleared
  cases hcleared

end SupportPlatform
