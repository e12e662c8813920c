import Mathlib.Data.List.Basic
import Mathlib.Tactic.Lemma
import SupportPlatform.Core.Machine

/-!
# A tab of the browser

The token storage, `AuthService` and `authInterceptor` in one tab: any number of requests, each
with its answers, the refresh it may start or be queued behind, and its retry. Everything between
two answers is one step, as JavaScript runs it. A request is sent when it is subscribed to, so its
access token is read from the storage at that moment.
-/

namespace SupportPlatform

/-- An `HttpErrorResponse`; the status is 0 when no answer came. -/
structure HttpErrorResponse where
  status : Nat
  message : String
deriving DecidableEq, Repr

/-- `TokenStorageService`: the two items of `localStorage`. -/
structure TokenStorage (Access Refresh : Type) where
  accessToken : Option Access
  refreshToken : Option Refresh
deriving DecidableEq, Repr

namespace TokenStorage

variable {Access Refresh : Type}

def setTokens (accessToken : Access) (refreshToken : Refresh) : TokenStorage Access Refresh :=
  ⟨some accessToken, some refreshToken⟩

def clear : TokenStorage Access Refresh := ⟨none, none⟩

end TokenStorage

/-- The calls that are made through `HttpClient`; the one of `refreshTokens` is a phase of the
request that starts it. -/
inductive ClientCall (Refresh : Type) where
  | api (url : String)
  | me
  | login
  | register
  | logout (refreshToken : Refresh)
deriving DecidableEq, Repr

/-- The body of a successful answer: the session that `login` and `register` apply, the profile
that `restoreSession` sets, or data that no state is kept of. -/
inductive Body (Access Refresh User : Type) where
  | data
  | profile (user : User)
  | session (accessToken : Access) (refreshToken : Refresh) (user : User)
deriving DecidableEq, Repr

/-- A value of `refreshedToken$`, with the request whose refresh it came from. -/
structure RefreshedToken (Access : Type) where
  accessToken : Access
  refresh : Nat
deriving DecidableEq, Repr

/-- Where a request stands. A refresh is known by the request that started it: `behind` is the
refresh a request was queued behind, and `none` for the request that started one itself. `logins`
is the number of logins that were answered before the refresh was started. -/
inductive RequestPhase (Access Refresh : Type) where
  | sent (bearer : Option Access)
  | refreshing (refreshToken : Option Refresh) (logins : Nat)
  | queued (behind : Nat)
  | retried (token : RefreshedToken Access) (behind : Option Nat)
  | succeeded
  | failed (error : HttpErrorResponse)
  | cancelled
deriving DecidableEq, Repr

structure ClientRequest (Access Refresh : Type) where
  call : ClientCall Refresh
  phase : RequestPhase Access Refresh
deriving DecidableEq, Repr

/-- The state of a tab. The fields from `refresher` on are history that no code reads: the request
that started the last refresh, the logins answered, those answered before what is stored was asked
for, whether a logout came after the last of them, and the callers of `logout`, the user or the
handler of a request. -/
structure Tab (Access Refresh User : Type) where
  storage : TokenStorage Access Refresh
  user : Option User
  isRefreshing : Bool
  refreshedToken : Option (RefreshedToken Access)
  requests : List (ClientRequest Access Refresh)
  refresher : Nat
  logins : Nat
  storedLogins : Nat
  loggedOut : Bool
  logouts : List (Option Nat)
deriving DecidableEq, Repr

/-- What can happen in a tab: a component sends a request, the user or the start of the page calls
a method of `AuthService`, an answer arrives, or a subscription is cancelled. -/
inductive TabEvent (Access Refresh User : Type) where
  | send (url : String)
  | restoreSession
  | login
  | register
  | logout
  | responded (i : Nat) (result : Except HttpErrorResponse (Body Access Refresh User))
  | refreshed (i : Nat) (result : Except HttpErrorResponse (Access × Refresh))
  | cancel (i : Nat)
deriving Repr

section

variable {Access Refresh User : Type}

namespace ClientCall

def url : ClientCall Refresh → String
  | api url => url
  | me => "/api/auth/me"
  | login => "/api/auth/login"
  | register => "/api/auth/register"
  | logout _ => "/api/auth/logout"

/-- The body that a successful answer to the call has. -/
def expects : ClientCall Refresh → Body Access Refresh User → Bool
  | me, .profile _ => true
  | login, .session _ _ _ | register, .session _ _ _ => true
  | api _, .data | logout _, .data => true
  | _, _ => false

end ClientCall

def AUTH_FREE_PATHS : List String := ["/auth/login", "/auth/register", "/auth/refresh"]

def isAuthFree (url : String) : Bool := AUTH_FREE_PATHS.any fun p => p.toList <:+: url.toList

namespace RequestPhase

/-- The call of `/auth/refresh` that the request has started is outstanding. -/
def isRefreshing : RequestPhase Access Refresh → Bool
  | refreshing _ _ => true
  | _ => false

/-- An answer to the request itself is outstanding, to its first attempt or to its retry. -/
def awaits : RequestPhase Access Refresh → Bool
  | sent _ | retried _ _ => true
  | _ => false

/-- The caller has not been told how the request ended. -/
def isOpen : RequestPhase Access Refresh → Bool
  | sent _ | refreshing _ _ | queued _ | retried _ _ => true
  | _ => false

/-- `refreshedToken$.next(token)` releases a request that waits for a token. -/
def release (token : RefreshedToken Access) :
    RequestPhase Access Refresh → RequestPhase Access Refresh
  | queued behind => retried token (some behind)
  | phase => phase

end RequestPhase

namespace Tab

/-- A page that has just been loaded over what an earlier one left in the storage. -/
def initial (storage : TokenStorage Access Refresh) : Tab Access Refresh User :=
  ⟨storage, none, false, none, [], 0, 0, 0, false, []⟩

variable (b : Tab Access Refresh User)

/-- The phase of the `i`-th request. -/
def phase? (i : Nat) : Option (RequestPhase Access Refresh) := b.requests[i]?.map (·.phase)

def setPhase (i : Nat) (phase : RequestPhase Access Refresh) : Tab Access Refresh User :=
  { b with requests := b.requests.modify i fun r => { r with phase } }

/-- The first half of `authInterceptor`: the request is sent with the access token of the storage,
unless its path needs none. -/
def subscribe (call : ClientCall Refresh) : Tab Access Refresh User :=
  { b with
    requests := b.requests ++
      [⟨call, .sent (if isAuthFree call.url then none else b.storage.accessToken)⟩] }

/-- `AuthService.logout`, with its caller. The request is sent before the storage is cleared. -/
def logout (caller : Option Nat) : Tab Access Refresh User :=
  let posted := match b.storage.refreshToken with
    | some refreshToken => b.subscribe (.logout refreshToken)
    | none => b
  { posted with
    storage := .clear
    user := none
    loggedOut := true
    logouts := b.logouts ++ [caller] }

/-- `AuthService.applySession`. -/
def applySession (accessToken : Access) (refreshToken : Refresh) (user : User) :
    Tab Access Refresh User :=
  { b with
    storage := .setTokens accessToken refreshToken
    user := some user
    logins := b.logins + 1
    storedLogins := b.logins + 1
    loggedOut := false }

/-- What the `tap` of a call does with the body of its answer. -/
def tap : Body Access Refresh User → Tab Access Refresh User
  | .data => b
  | .profile user => { b with user := some user }
  | .session accessToken refreshToken user => b.applySession accessToken refreshToken user

/-- `handle401` up to the first answer it waits for. -/
def handle401 (i : Nat) : Tab Access Refresh User :=
  if b.isRefreshing then
    -- a `BehaviorSubject` emits its current value to a new subscriber
    match b.refreshedToken with
    | some token => b.setPhase i (.retried token (some b.refresher))
    | none => b.setPhase i (.queued b.refresher)
  else
    { b with
      isRefreshing := true
      refreshedToken := none
      refresher := i }.setPhase i (.refreshing b.storage.refreshToken b.logins)

/-- The `catchError` of `handle401`, for an error of the refresh or of the retry behind it. -/
def catchRefreshError (i : Nat) (error : HttpErrorResponse) : Tab Access Refresh User :=
  ({ b with isRefreshing := false }.logout (some i)).setPhase i (.failed error)

/-- The condition under which `authInterceptor` handles an error of the first attempt. -/
def catches (call : ClientCall Refresh) (error : HttpErrorResponse) : Bool :=
  error.status = 401 && !isAuthFree call.url && b.storage.refreshToken.isSome

/-- The second half of `authInterceptor`: what it does with an error of the first attempt. -/
def catchError (i : Nat) (call : ClientCall Refresh) (error : HttpErrorResponse) :
    Tab Access Refresh User :=
  if b.catches call error then b.handle401 i else b.setPhase i (.failed error)

/-- The answer of `/auth/refresh`: `refreshTokens` stores the tokens, the queued requests are
released, and the request that started the refresh is retried. -/
def refreshSucceeded (i : Nat) (accessToken : Access) (refreshToken : Refresh) (logins : Nat) :
    Tab Access Refresh User :=
  let token : RefreshedToken Access := ⟨accessToken, i⟩
  let released : Tab Access Refresh User :=
    { b with
      storage := .setTokens accessToken refreshToken
      isRefreshing := false
      refreshedToken := some token
      requests := b.requests.map fun r => { r with phase := r.phase.release token }
      storedLogins := logins }
  released.setPhase i (.retried token none)

/-- One step; `none` when the event is not enabled. -/
def step : TabEvent Access Refresh User → Option (Tab Access Refresh User)
  | .send url => some (b.subscribe (.api url))
  | .restoreSession => some (if b.storage.accessToken.isSome then b.subscribe .me else b)
  | .login => some (b.subscribe .login)
  | .register => some (b.subscribe .register)
  | .logout => some (b.logout none)
  | .responded i result =>
    b.requests[i]?.bind fun r =>
      match r.phase, result with
      | .sent _, .ok body | .retried _ _, .ok body =>
        if r.call.expects body then some ((b.setPhase i .succeeded).tap body) else none
      | .sent _, .error error => some (b.catchError i r.call error)
      | .retried _ none, .error error => some (b.catchRefreshError i error)
      | .retried _ (some _), .error error => some (b.setPhase i (.failed error))
      | _, _ => none
  | .refreshed i result =>
    (b.phase? i).bind fun phase =>
      match phase, result with
      | .refreshing _ logins, .ok (accessToken, refreshToken) =>
        some (b.refreshSucceeded i accessToken refreshToken logins)
      | .refreshing _ _, .error error => some (b.catchRefreshError i error)
      | _, _ => none
  | .cancel i =>
    if (b.phase? i).any RequestPhase.isOpen then some (b.setPhase i .cancelled) else none

/-! ### The phases of the requests -/

section Phases

variable {b} {b' : Tab Access Refresh User} {i j : Nat} {phase phase' : RequestPhase Access Refresh}
  {call : ClientCall Refresh} {caller : Option Nat} {error : HttpErrorResponse}

lemma phase?_of_request {r : ClientRequest Access Refresh} (h : b.requests[i]? = some r) :
    b.phase? i = some r.phase := by
  rw [phase?, h]
  rfl

lemma exists_request (h : b.phase? i = some phase) :
    ∃ call, b.requests[i]? = some ⟨call, phase⟩ := by
  obtain ⟨r, hr, rfl⟩ := Option.map_eq_some_iff.mp h
  exact ⟨r.call, hr⟩

lemma phase?_setPhase (b : Tab Access Refresh User) (i j : Nat)
    (phase : RequestPhase Access Refresh) :
    (b.setPhase i phase).phase? j =
      if i = j then (b.phase? j).map fun _ => phase else b.phase? j := by
  simp only [phase?, setPhase, List.getElem?_modify]
  split <;> cases b.requests[j]? <;> rfl

@[simp] lemma phase?_setPhase_self (h : b.phase? i = some phase) :
    (b.setPhase i phase').phase? i = some phase' := by
  rw [phase?_setPhase, if_pos rfl, h]
  rfl

@[simp] lemma phase?_setPhase_ne (h : j ≠ i) : (b.setPhase i phase').phase? j = b.phase? j := by
  rw [phase?_setPhase, if_neg h.symm]

lemma phase?_setPhase_cases (h : (b.setPhase i phase').phase? j = some phase) :
    (j = i ∧ phase = phase') ∨ (j ≠ i ∧ b.phase? j = some phase) := by
  rw [phase?_setPhase] at h
  split_ifs at h with hij
  · obtain ⟨_, -, rfl⟩ := Option.map_eq_some_iff.mp h
    exact .inl ⟨hij.symm, rfl⟩
  · exact .inr ⟨fun heq => hij heq.symm, h⟩

/-- The requests are those of `b`, and perhaps one more that has just been sent. -/
def Sends (b b' : Tab Access Refresh User) : Prop :=
  b'.requests = b.requests ∨ ∃ call bearer, b'.requests = b.requests ++ [⟨call, .sent bearer⟩]

lemma Sends.phase?_eq (h : b.Sends b') (hi : b.phase? i = some phase) :
    b'.phase? i = some phase := by
  obtain ⟨call, hr⟩ := exists_request hi
  rcases h with hrs | ⟨_, _, hrs⟩
  · rw [phase?, hrs, hr]
    rfl
  · have hlt := (List.getElem?_eq_some_iff.mp hr).1
    rw [phase?, hrs, List.getElem?_append_left hlt, hr]
    rfl

lemma Sends.phase?_cases (h : b.Sends b') (hi : b'.phase? i = some phase) :
    b.phase? i = some phase ∨ ∃ bearer, phase = .sent bearer := by
  obtain ⟨call, hr⟩ := exists_request hi
  rcases h with hrs | ⟨call', bearer, hrs⟩
  · rw [hrs] at hr
    exact .inl (phase?_of_request hr)
  · rw [hrs, List.getElem?_append] at hr
    split_ifs at hr with hlt
    · exact .inl (phase?_of_request hr)
    · have hnew : (⟨call, phase⟩ : ClientRequest Access Refresh) = ⟨call', .sent bearer⟩ := by
        simpa using List.mem_of_getElem? hr
      cases hnew
      exact .inr ⟨bearer, rfl⟩

lemma sends_subscribe (b : Tab Access Refresh User) (call : ClientCall Refresh) :
    b.Sends (b.subscribe call) := .inr ⟨_, _, rfl⟩

lemma sends_logout (b : Tab Access Refresh User) (caller : Option Nat) :
    b.Sends (b.logout caller) := by
  unfold logout
  cases b.storage.refreshToken with
  | none => exact .inl rfl
  | some refreshToken => exact .inr ⟨_, _, rfl⟩

@[simp] lemma isRefreshing_logout (b : Tab Access Refresh User) (caller : Option Nat) :
    (b.logout caller).isRefreshing = b.isRefreshing := by
  unfold logout
  cases b.storage.refreshToken <;> rfl

@[simp] lemma refreshedToken_logout (b : Tab Access Refresh User) (caller : Option Nat) :
    (b.logout caller).refreshedToken = b.refreshedToken := by
  unfold logout
  cases b.storage.refreshToken <;> rfl

@[simp] lemma requests_tap (b : Tab Access Refresh User) (body : Body Access Refresh User) :
    (b.tap body).requests = b.requests := by cases body <;> rfl

@[simp] lemma isRefreshing_tap (b : Tab Access Refresh User) (body : Body Access Refresh User) :
    (b.tap body).isRefreshing = b.isRefreshing := by cases body <;> rfl

@[simp] lemma refreshedToken_tap (b : Tab Access Refresh User)
    (body : Body Access Refresh User) : (b.tap body).refreshedToken = b.refreshedToken := by
  cases body <;> rfl

@[simp] lemma phase?_tap (b : Tab Access Refresh User) (body : Body Access Refresh User) (i : Nat) :
    (b.tap body).phase? i = b.phase? i := by
  rw [phase?, requests_tap]
  rfl

lemma phase?_refreshSucceeded_self {accessToken : Access} {refreshToken : Refresh} {logins : Nat}
    (h : b.phase? i = some phase) :
    (b.refreshSucceeded i accessToken refreshToken logins).phase? i =
      some (.retried ⟨accessToken, i⟩ none) := by
  obtain ⟨call, hr⟩ := exists_request h
  rw [refreshSucceeded, phase?_setPhase, if_pos rfl, phase?, List.getElem?_map, hr]
  rfl

lemma phase?_refreshSucceeded (b : Tab Access Refresh User) (i : Nat) (accessToken : Access)
    (refreshToken : Refresh) (logins : Nat) (h : j ≠ i) :
    (b.refreshSucceeded i accessToken refreshToken logins).phase? j =
      (b.phase? j).map (RequestPhase.release ⟨accessToken, i⟩) := by
  rw [refreshSucceeded, phase?_setPhase_ne h, phase?, phase?, List.getElem?_map, Option.map_map,
    Option.map_map]
  rfl

end Phases

/-! ### What a step can do -/

/-- All that a step can do. -/
inductive Steps (b : Tab Access Refresh User) :
    TabEvent Access Refresh User → Tab Access Refresh User → Prop
  | send {url} : Steps b (.send url) (b.subscribe (.api url))
  | restore : Steps b .restoreSession (b.subscribe .me)
  | nothing : Steps b .restoreSession b
  | login : Steps b .login (b.subscribe .login)
  | register : Steps b .register (b.subscribe .register)
  | logout : Steps b .logout (b.logout none)
  | succeeded {i body phase} (hphase : b.phase? i = some phase) (hawaits : phase.awaits) :
    Steps b (.responded i (.ok body)) ((b.setPhase i .succeeded).tap body)
  | failed {i error call bearer} (hrequest : b.requests[i]? = some ⟨call, .sent bearer⟩)
    (hcatches : ¬b.catches call error) :
    Steps b (.responded i (.error error)) (b.setPhase i (.failed error))
  | caught {i error call bearer} (hrequest : b.requests[i]? = some ⟨call, .sent bearer⟩)
    (hcatches : b.catches call error) : Steps b (.responded i (.error error)) (b.handle401 i)
  | starterFailed {i error token} (hphase : b.phase? i = some (.retried token none)) :
    Steps b (.responded i (.error error)) (b.catchRefreshError i error)
  | retryFailed {i error token behind} (hphase : b.phase? i = some (.retried token (some behind))) :
    Steps b (.responded i (.error error)) (b.setPhase i (.failed error))
  | refreshed {i accessToken refreshToken posted logins}
    (hphase : b.phase? i = some (.refreshing posted logins)) :
    Steps b (.refreshed i (.ok (accessToken, refreshToken)))
      (b.refreshSucceeded i accessToken refreshToken logins)
  | refreshFailed {i error posted logins}
    (hphase : b.phase? i = some (.refreshing posted logins)) :
    Steps b (.refreshed i (.error error)) (b.catchRefreshError i error)
  | cancelled {i phase} (hphase : b.phase? i = some phase) (hopen : phase.isOpen) :
    Steps b (.cancel i) (b.setPhase i .cancelled)

theorem step_cases {b b' : Tab Access Refresh User} {e : TabEvent Access Refresh User}
    (h : b.step e = some b') : Steps b e b' := by
  cases e with
  | send url =>
    cases h
    exact .send
  | restoreSession =>
    rw [step] at h
    split_ifs at h <;> cases h
    · exact .restore
    · exact .nothing
  | login =>
    cases h
    exact .login
  | register =>
    cases h
    exact .register
  | logout =>
    cases h
    exact .logout
  | responded i result =>
    obtain ⟨⟨call, phase⟩, hrequest, h⟩ := Option.bind_eq_some_iff.mp h
    have hphase := phase?_of_request hrequest
    dsimp only at h hphase
    split at h
    · split_ifs at h
      cases h
      exact .succeeded hphase rfl
    · split_ifs at h
      cases h
      exact .succeeded hphase rfl
    · cases h
      unfold catchError
      split
      · next hcatches => exact .caught hrequest hcatches
      · next hcatches => exact .failed hrequest hcatches
    · cases h
      exact .starterFailed hphase
    · cases h
      exact .retryFailed hphase
    · cases h
  | refreshed i result =>
    obtain ⟨phase, hphase, h⟩ := Option.bind_eq_some_iff.mp h
    split at h
    · cases h
      exact .refreshed hphase
    · cases h
      exact .refreshFailed hphase
    · cases h
  | cancel i =>
    rw [step] at h
    split_ifs at h with hopen
    cases h
    obtain ⟨phase, hphase, hopen⟩ := (Option.any_eq_true _ _).mp hopen
    exact .cancelled hphase hopen

end Tab

end

end SupportPlatform
