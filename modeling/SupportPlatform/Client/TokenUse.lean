import SupportPlatform.Client.RefreshFlag

/-!
# Where the refresh tokens of a tab go

The server takes a refresh token that comes a second time for a stolen one and ends the session.
From one loading of the page to the next, a tab that has the storage to itself does not bring this
about. Whatever requests, answers, logins and logouts come in which order, and although requests
are cancelled and flags left set, each token the server has given goes to `/auth/refresh` at most
once, and to `/auth/logout` at most once, after that.

A reload ends such a run, and the next one starts with what is stored. So a page that is reloaded
while a refresh is outstanding may present the token of that refresh again.
-/

namespace SupportPlatform

/-- An answer brings a refresh token, or a request presents it. -/
inductive TokenUse (Refresh : Type) where
  | received (token : Refresh)
  | refreshed (token : Refresh)
  | loggedOut (token : Refresh)
deriving DecidableEq, Repr

namespace TokenUse

variable {Refresh : Type}

def received? : TokenUse Refresh → Option Refresh
  | received token => some token
  | _ => none

def presented? : TokenUse Refresh → Option Refresh
  | received _ => none
  | refreshed token | loggedOut token => some token

/-- If `p` came before `q` and both present the same token, the tab has logged out after it had
tried to refresh. -/
def Before (p q : TokenUse Refresh) : Prop :=
  ∀ token, p.presented? = some token → q.presented? = some token →
    p = refreshed token ∧ q = loggedOut token

end TokenUse

section

variable {Access Refresh User : Type}

/-- The refresh token that the answer brings. -/
def TabEvent.brings : TabEvent Access Refresh User → List (TokenUse Refresh)
  | .responded _ (.ok (.session _ token _)) | .refreshed _ (.ok (_, token)) => [.received token]
  | _ => []

def ClientCall.loggedOut? : ClientCall Refresh → Option (TokenUse Refresh)
  | logout token => some (.loggedOut token)
  | _ => none

namespace Tab

section

variable (b : Tab Access Refresh User)

def calls : List (ClientCall Refresh) := b.requests.map (·.call)

/-- The refresh that the `i`-th request has started in the step to `b'`. -/
def startsRefresh (b' : Tab Access Refresh User) (i : Nat) : List (TokenUse Refresh) :=
  match b.phase? i, b'.phase? i with
  | some (.sent _), some (.refreshing (some token) _) => [.refreshed token]
  | _, _ => []

/-- The logouts that are sent in the step to `b'`. -/
def sendsLogout (b' : Tab Access Refresh User) : List (TokenUse Refresh) :=
  (b'.calls.drop b.calls.length).filterMap (·.loggedOut?)

/-- What becomes of refresh tokens in a step. -/
def tokenUses (e : TabEvent Access Refresh User) (b' : Tab Access Refresh User) :
    List (TokenUse Refresh) :=
  e.brings ++ (match e with | .responded i _ => b.startsRefresh b' i | _ => []) ++ b.sendsLogout b'

end

variable {b b' : Tab Access Refresh User} {e : TabEvent Access Refresh User}
  {l : List (TokenUse Refresh)}

@[simp] lemma calls_setPhase (b : Tab Access Refresh User) (i : Nat)
    (phase : RequestPhase Access Refresh) : (b.setPhase i phase).calls = b.calls := by
  apply List.ext_getElem?
  intro j
  simp only [calls, setPhase, List.getElem?_map, List.getElem?_modify]
  split <;> cases b.requests[j]? <;> rfl

@[simp] lemma calls_subscribe (b : Tab Access Refresh User) (call : ClientCall Refresh) :
    (b.subscribe call).calls = b.calls ++ [call] := List.map_append

@[simp] lemma calls_tap (b : Tab Access Refresh User) (body : Body Access Refresh User) :
    (b.tap body).calls = b.calls := by
  rw [calls, requests_tap]
  rfl

lemma calls_logout (b : Tab Access Refresh User) (caller : Option Nat) :
    (b.logout caller).calls = b.calls ++ (b.storage.refreshToken.map .logout).toList := by
  unfold logout
  cases b.storage.refreshToken with
  | none => exact (List.append_nil _).symm
  | some token => exact calls_subscribe b (.logout token)

/-- The ways in which a step uses refresh tokens. -/
inductive Uses (b b' : Tab Access Refresh User) : List (TokenUse Refresh) → Prop
  | none (hstorage : b'.storage.refreshToken = b.storage.refreshToken)
    (hflag : b'.isRefreshing = b.isRefreshing) : Uses b b' []
  | received {token} (hstorage : b'.storage.refreshToken = some token) :
    Uses b b' [.received token]
  | refreshed {token} (hstorage : b'.storage.refreshToken = b.storage.refreshToken)
    (htoken : b.storage.refreshToken = some token) (hidle : b.isRefreshing = false)
    (hflag : b'.isRefreshing) : Uses b b' [.refreshed token]
  | loggedOut (hstorage : b'.storage.refreshToken = .none) :
    Uses b b' (b.storage.refreshToken.map .loggedOut).toList

lemma sendsLogout_of_calls (h : b'.calls = b.calls) : b.sendsLogout b' = [] := by
  rw [sendsLogout, h, List.drop_length]
  rfl

lemma sendsLogout_subscribe {call : ClientCall Refresh} (h : call.loggedOut? = none) :
    b.sendsLogout (b.subscribe call) = [] := by
  rw [sendsLogout, calls_subscribe, List.drop_left]
  simp [h]

lemma sendsLogout_of_logout
    (h : b'.calls = b.calls ++ (b.storage.refreshToken.map .logout).toList) :
    b.sendsLogout b' = (b.storage.refreshToken.map .loggedOut).toList := by
  rw [sendsLogout, h, List.drop_left]
  cases b.storage.refreshToken <;> rfl

lemma startsRefresh_of_phase {i : Nat} {phase : RequestPhase Access Refresh}
    (h : b'.phase? i = some phase) (hphase : phase.isRefreshing = false) :
    b.startsRefresh b' i = [] := by
  rw [startsRefresh, h]
  split
  · next hrefreshing =>
    obtain rfl := Option.some.inj hrefreshing
    cases hphase
  · rfl

lemma uses_handle401 {i : Nat} {error : HttpErrorResponse} {call : ClientCall Refresh}
    {bearer : Option Access} (hrequest : b.requests[i]? = some ⟨call, .sent bearer⟩)
    (hcatches : b.catches call error) :
    Uses b (b.handle401 i) (b.startsRefresh (b.handle401 i) i) := by
  have hphase := phase?_of_request hrequest
  cases hflag : b.isRefreshing with
  | true =>
    obtain ⟨phase, hhandle, hrefreshing⟩ :
        ∃ phase, b.handle401 i = b.setPhase i phase ∧ phase.isRefreshing = false := by
      rw [handle401, if_pos hflag]
      cases b.refreshedToken <;> exact ⟨_, rfl, rfl⟩
    rw [hhandle, startsRefresh_of_phase (phase?_setPhase_self hphase) hrefreshing]
    exact .none rfl rfl
  | false =>
    have hstored : b.storage.refreshToken.isSome := by
      simp only [catches, Bool.and_eq_true] at hcatches
      exact hcatches.2
    obtain ⟨token, htoken⟩ := Option.isSome_iff_exists.mp hstored
    have hafter : (b.handle401 i).phase? i = some (.refreshing (some token) b.logins) := by
      rw [handle401, if_neg (by simp [hflag]), ← htoken]
      exact phase?_setPhase_self hphase
    rw [startsRefresh, hphase, hafter]
    refine .refreshed ?_ htoken hflag ?_ <;> rw [handle401, if_neg (by simp [hflag])] <;> rfl

lemma uses_logout (caller : Option Nat) :
    Uses b (b.logout caller) (b.sendsLogout (b.logout caller)) := by
  rw [sendsLogout_of_logout (calls_logout b caller)]
  exact .loggedOut rfl

lemma uses_catchRefreshError (i : Nat) (error : HttpErrorResponse) :
    Uses b (b.catchRefreshError i error) (b.sendsLogout (b.catchRefreshError i error)) := by
  rw [sendsLogout_of_logout]
  · exact .loggedOut rfl
  · rw [catchRefreshError, calls_setPhase, calls_logout]
    rfl

theorem Steps.uses (h : Steps b e b') : Uses b b' (b.tokenUses e b') := by
  cases h with
  | send | restore | login | register =>
    change Uses b _ (b.sendsLogout (b.subscribe _))
    rw [sendsLogout_subscribe rfl]
    exact .none rfl rfl
  | nothing =>
    change Uses b _ (b.sendsLogout b)
    rw [sendsLogout_of_calls rfl]
    exact .none rfl rfl
  | logout => exact uses_logout none
  | @succeeded i body phase hphase hawaits =>
    have hafter : ((b.setPhase i .succeeded).tap body).phase? i = some .succeeded := by
      rw [phase?_tap]
      exact phase?_setPhase_self hphase
    rw [tokenUses]
    simp only [startsRefresh_of_phase hafter rfl, sendsLogout_of_calls, calls_tap, calls_setPhase]
    cases body with
    | session accessToken token user => exact .received rfl
    | _ => exact .none rfl rfl
  | @failed i error call bearer hrequest _ =>
    have hafter : (b.setPhase i (.failed error)).phase? i = some (.failed error) :=
      phase?_setPhase_self (phase?_of_request hrequest)
    rw [tokenUses, startsRefresh_of_phase hafter rfl, sendsLogout_of_calls (by simp)]
    exact .none rfl rfl
  | @caught i error call bearer hrequest hcatches =>
    have hcalls : (b.handle401 i).calls = b.calls := by
      unfold handle401
      split
      · split <;> exact calls_setPhase _ _ _
      · exact calls_setPhase _ _ _
    rw [tokenUses, sendsLogout_of_calls hcalls, List.append_nil]
    exact uses_handle401 hrequest hcatches
  | @starterFailed i error token hphase =>
    have hafter : (b.catchRefreshError i error).phase? i = some (.failed error) :=
      phase?_setPhase_self ((sends_logout _ _).phase?_eq hphase)
    rw [tokenUses, startsRefresh_of_phase hafter rfl]
    exact uses_catchRefreshError i error
  | @retryFailed i error token behind hphase =>
    have hafter : (b.setPhase i (.failed error)).phase? i = some (.failed error) :=
      phase?_setPhase_self hphase
    rw [tokenUses, startsRefresh_of_phase hafter rfl, sendsLogout_of_calls (by simp)]
    exact .none rfl rfl
  | @refreshed i accessToken refreshToken posted logins hphase =>
    have hcalls : (b.refreshSucceeded i accessToken refreshToken logins).calls = b.calls := by
      rw [refreshSucceeded, calls_setPhase, calls, List.map_map]
      rfl
    change Uses b _ (.received refreshToken :: b.sendsLogout _)
    rw [sendsLogout_of_calls hcalls]
    exact .received rfl
  | @refreshFailed i error posted logins hphase => exact uses_catchRefreshError i error
  | @cancelled i phase hphase hopen =>
    change Uses b _ (b.sendsLogout (b.setPhase i .cancelled))
    rw [sendsLogout_of_calls (calls_setPhase b i .cancelled)]
    exact .none rfl rfl

/-- The refresh tokens that the server has given, those of earlier pages first. -/
def given (old : List Refresh) (l : List (TokenUse Refresh)) : List Refresh :=
  old ++ l.filterMap (·.received?)

lemma given_append (old : List Refresh) (l new : List (TokenUse Refresh)) :
    given old (l ++ new) = given old l ++ new.filterMap (·.received?) := by
  rw [given, given, List.filterMap_append, List.append_assoc]

/-- What holds of a tab and the uses of refresh tokens so far. What is stored has been given by the
server, has not been logged out, and has not been refreshed but for a refresh still under way. -/
structure SpendsOnce (old : List Refresh) (b : Tab Access Refresh User)
    (l : List (TokenUse Refresh)) : Prop where
  refreshed : ∀ token ∈ b.storage.refreshToken, .refreshed token ∈ l → b.isRefreshing
  loggedOut : ∀ token ∈ b.storage.refreshToken, .loggedOut token ∉ l
  stored : ∀ token ∈ b.storage.refreshToken, token ∈ given old l
  presented : ∀ p ∈ l, ∀ token ∈ p.presented?, token ∈ given old l
  ordered : l.Pairwise TokenUse.Before

lemma spendsOnce_initial (storage : TokenStorage Access Refresh) :
    SpendsOnce storage.refreshToken.toList (initial storage : Tab Access Refresh User) [] where
  refreshed _ _ h := by cases h
  loggedOut _ _ h := by cases h
  stored token h := by
    rw [given, List.filterMap_nil, List.append_nil]
    exact Option.mem_toList.mpr h
  presented _ h := by cases h
  ordered := .nil

/-- What is presented now has been given before, so it is no token that is given only now. -/
lemma SpendsOnce.presented_append {old : List Refresh} {new : List (TokenUse Refresh)}
    (hb : SpendsOnce old b l)
    (hnew : ∀ p ∈ new, ∀ token ∈ p.presented?, token ∈ b.storage.refreshToken) :
    ∀ p ∈ l ++ new, ∀ token ∈ p.presented?, token ∈ given old (l ++ new) := by
  intro p hp token htoken
  rw [given_append]
  refine List.mem_append_left _ ?_
  rcases List.mem_append.mp hp with hp | hp
  · exact hb.presented p hp token htoken
  · exact hb.stored token (hnew p hp token htoken)

/-- What presents the stored token has tried to refresh. -/
lemma SpendsOnce.eq_refreshed {old : List Refresh} (hb : SpendsOnce old b l) {token : Refresh}
    (hstored : token ∈ b.storage.refreshToken) {p : TokenUse Refresh} (hp : p ∈ l)
    (hpresented : p.presented? = some token) : p = .refreshed token := by
  cases p with
  | received _ => cases hpresented
  | refreshed t =>
    obtain rfl := Option.some.inj hpresented
    rfl
  | loggedOut t =>
    obtain rfl := Option.some.inj hpresented
    exact absurd hp (hb.loggedOut t hstored)

lemma SpendsOnce.append_received {old : List Refresh} {token : Refresh} (hb : SpendsOnce old b l)
    (hfresh : (given old (l ++ [.received token])).Nodup)
    (hstorage : b'.storage.refreshToken = some token) :
    SpendsOnce old b' (l ++ [.received token]) := by
  rw [given_append] at hfresh
  have hunknown : token ∉ given old l := fun h =>
    (List.nodup_append.mp hfresh).2.2 token h token (by simp [TokenUse.received?]) rfl
  have hpresents {t : Refresh} : ∀ p ∈ [TokenUse.received token], p.presented? ≠ some t := by
    intro p hp h
    obtain rfl := List.mem_singleton.mp hp
    cases h
  -- a token that is given only now has not been presented
  have hunused {t : Refresh} (ht : t ∈ b'.storage.refreshToken) {p : TokenUse Refresh}
      (hp : p ∈ l ++ [.received token]) (h : p.presented? = some t) : False := by
    obtain rfl := Option.some.inj (hstorage.symm.trans ht)
    rcases List.mem_append.mp hp with hp | hp
    · exact hunknown (hb.presented p hp token h)
    · exact hpresents p hp h
  refine ⟨fun t ht h => (hunused ht h rfl).elim, fun t ht h => hunused ht h rfl, fun t ht => ?_,
    hb.presented_append fun p hp t h => absurd h (hpresents p hp), ?_⟩
  · obtain rfl := Option.some.inj (hstorage.symm.trans ht)
    simp [given_append, TokenUse.received?]
  · exact List.pairwise_append.mpr ⟨hb.ordered, List.pairwise_singleton _ _,
      fun p _ q hq t _ h => absurd h (hpresents q hq)⟩

lemma SpendsOnce.append_refreshed {old : List Refresh} {token : Refresh} (hb : SpendsOnce old b l)
    (hstorage : b'.storage.refreshToken = b.storage.refreshToken)
    (htoken : b.storage.refreshToken = some token) (hidle : b.isRefreshing = false)
    (hflag : b'.isRefreshing) : SpendsOnce old b' (l ++ [.refreshed token]) := by
  have hunrefreshed : .refreshed token ∉ l := fun h => by
    rw [hb.refreshed token htoken h] at hidle
    cases hidle
  refine ⟨fun _ _ _ => hflag, fun t ht h => ?_, fun t ht => ?_, hb.presented_append ?_, ?_⟩
  · rcases List.mem_append.mp h with h | h
    · exact hb.loggedOut t (hstorage ▸ ht) h
    · cases List.mem_singleton.mp h
  · rw [given_append]
    exact List.mem_append_left _ (hb.stored t (hstorage ▸ ht))
  · intro p hp t ht
    obtain rfl := List.mem_singleton.mp hp
    exact htoken.trans ht
  · refine List.pairwise_append.mpr ⟨hb.ordered, List.pairwise_singleton _ _, ?_⟩
    intro p hp q hq t hpt hqt
    obtain rfl := List.mem_singleton.mp hq
    obtain rfl := Option.some.inj hqt
    exact absurd (hb.eq_refreshed htoken hp hpt ▸ hp) hunrefreshed

lemma SpendsOnce.append_loggedOut {old : List Refresh} (hb : SpendsOnce old b l)
    (hstorage : b'.storage.refreshToken = none) :
    SpendsOnce old b' (l ++ (b.storage.refreshToken.map .loggedOut).toList) := by
  have hlogout {p : TokenUse Refresh} (hp : p ∈ (b.storage.refreshToken.map .loggedOut).toList) :
      ∃ t ∈ b.storage.refreshToken, p = .loggedOut t := by
    obtain ⟨t, ht, rfl⟩ := Option.map_eq_some_iff.mp (Option.mem_toList.mp hp)
    exact ⟨t, ht, rfl⟩
  have hnone (t : Refresh) : t ∉ b'.storage.refreshToken := fun ht => by
    cases hstorage.symm.trans ht
  refine ⟨fun t ht => absurd ht (hnone t), fun t ht => absurd ht (hnone t),
    fun t ht => absurd ht (hnone t), hb.presented_append ?_, ?_⟩
  · intro p hp t ht
    obtain ⟨t', ht', rfl⟩ := hlogout hp
    exact Option.some.inj ht ▸ ht'
  · refine List.pairwise_append.mpr ⟨hb.ordered, ?_, ?_⟩
    · cases b.storage.refreshToken <;> simp
    · intro p hp q hq t hpt hqt
      obtain ⟨t', ht', rfl⟩ := hlogout hq
      obtain rfl := Option.some.inj hqt
      exact ⟨hb.eq_refreshed ht' hp hpt, rfl⟩

lemma Uses.spendsOnce {old : List Refresh} {new : List (TokenUse Refresh)} (h : Uses b b' new)
    (hfresh : (given old (l ++ new)).Nodup) (hb : SpendsOnce old b l) :
    SpendsOnce old b' (l ++ new) := by
  cases h with
  | none hstorage hflag =>
    rw [List.append_nil]
    refine ⟨fun token ht => ?_, fun token ht => ?_, fun token ht => ?_, hb.presented, hb.ordered⟩
    · exact hflag ▸ hb.refreshed token (hstorage ▸ ht)
    · exact hb.loggedOut token (hstorage ▸ ht)
    · exact hb.stored token (hstorage ▸ ht)
  | received hstorage => exact hb.append_received hfresh hstorage
  | refreshed hstorage htoken hidle hflag => exact hb.append_refreshed hstorage htoken hidle hflag
  | loggedOut hstorage => exact hb.append_loggedOut hstorage

/-- In every run of a tab from a loading of the page on, in which the server gives fresh refresh
tokens, a token is presented to `/auth/refresh` at most once and to `/auth/logout` at most once, and
not to `/auth/refresh` after that. -/
theorem tokens_spent_once {storage : TokenStorage Access Refresh}
    {es : List (TabEvent Access Refresh User)}
    (h : Machine.exec step (initial storage) es = some b)
    (hfresh : (given storage.refreshToken.toList
      (Machine.collect step tokenUses (initial storage) es)).Nodup) :
    (Machine.collect step tokenUses (initial storage) es).Pairwise TokenUse.Before := by
  have hrun := Machine.exec_collect_invariant step (f := tokenUses)
    (I := fun b l => (given storage.refreshToken.toList l).Nodup →
      SpendsOnce storage.refreshToken.toList b l)
    (fun b e b' l hb hstep hfresh => by
      have hbefore := hfresh
      rw [given_append] at hbefore
      exact (step_cases hstep).uses.spendsOnce hfresh (hb (List.nodup_append.mp hbefore).1))
    (fun _ => spendsOnce_initial storage) h
  exact (hrun hfresh).ordered

end Tab

end

namespace Seed

/-- The user logs out while the refresh is under way, and logs in again before it fails. -/
def loggedOutMeanwhile : List (TabEvent Nat Nat Nat) :=
  ticketPage ++
    [.logout, .login, .responded 3 (.ok (.session 10 10 2)), .refreshed 0 (.error expired)]

end Seed

theorem Tab.tokens_spent_once_loggedOut :
    ∃ b : Tab Nat Nat Nat,
      Machine.exec Tab.step (Tab.initial Seed.storage) Seed.loggedOutMeanwhile = some b ∧
      Machine.collect Tab.step Tab.tokenUses (Tab.initial Seed.storage) Seed.loggedOutMeanwhile =
        [.refreshed 1, .loggedOut 1, .received 10, .loggedOut 10] ∧
      (Machine.collect Tab.step Tab.tokenUses (Tab.initial Seed.storage)
        Seed.loggedOutMeanwhile).Pairwise TokenUse.Before := by
  have hrun : (Machine.exec Tab.step (Tab.initial Seed.storage)
      Seed.loggedOutMeanwhile : Option (Tab Nat Nat Nat)).isSome := by decide
  obtain ⟨b, hb⟩ := Option.isSome_iff_exists.mp hrun
  exact ⟨b, hb, by decide, Tab.tokens_spent_once hb (by decide)⟩

end SupportPlatform
