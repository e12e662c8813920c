import SupportPlatform.Api.Requests
import SupportPlatform.Auth.Ownership
import SupportPlatform.Client.Tab

/-!
# A logout at both ends

`AuthService.logout` sends `/auth/logout` with the access token of the storage and clears the
storage at once. The endpoint is behind `JwtAuthGuard`, so an access token that has expired gets a
401; by then there is no refresh token left in the tab to handle it with, and the tokens of the
session stay valid on the server.
-/

namespace SupportPlatform

/-- A raw access token: the payload with the two times the library adds. -/
structure AccessJwt where
  payload : AccessTokenPayload
  iat : Time
  exp : Time
deriving DecidableEq, Repr

/-- `JwtAuthGuard.canActivate`: the bearer token has a genuine signature and has not expired, and
`JwtStrategy.validate` finds its user. -/
def JwtAuthGuard.canActivate (genuine : AccessJwt → Bool) (users : Table User) (now : Time)
    (bearer : Option AccessJwt) : Bool :=
  bearer.any fun access =>
    genuine access && now < access.exp &&
      (JwtStrategy.validate { Db.empty with users } access.payload.sub).isOk

/-- `AuthController.logout` in one go: the guard, and then the call of `TokenService.revoke`. -/
def AuthController.logout (cfg : TokenConfig) (genuine : AccessJwt → Bool) (env : TokenEnv)
    (s : Sessions) (bearer : Option AccessJwt) (refreshToken : RefreshJwt) :
    Except HttpErrorResponse Unit × Sessions :=
  if JwtAuthGuard.canActivate genuine s.db.users env.now bearer then
    let call : TokenCall :=
      if s.verifies refreshToken env.now then .revoke refreshToken else .done .revoked
    let (db, signed, call') := call.exec cfg env s.db
    let s' : Sessions :=
      { s with
        db
        signed := s.signed ++ signed
        calls := s.calls ++ [call'] }
    match call' with
    | .done (.failed _) => (.error ⟨500, "Internal server error"⟩, s')
    | _ => (.ok (), s')
  else (.error ⟨401, "Unauthorized"⟩, s)

namespace Sessions

/-- The call that was started last takes its next step, if this signs nothing. -/
lemma step_last (cfg : TokenConfig) (env : TokenEnv) (s : Sessions) {call : TokenCall}
    (hsigns : call.signs = false) (hsupersedes : ∀ call', call.supersedes call' = []) :
    step cfg { s with calls := s.calls ++ [call] } (.proceed s.calls.length env) =
      some
        { s with
          db := (call.exec cfg env s.db).1
          signed := s.signed ++ (call.exec cfg env s.db).2.1
          calls := s.calls ++ [(call.exec cfg env s.db).2.2] } := by
  have hcall : (s.calls ++ [call])[s.calls.length]? = some call := List.getElem?_concat_length
  have hset : ∀ call', (s.calls ++ [call]).set s.calls.length call' = s.calls ++ [call'] := by
    simp
  simp only [step, hcall, Option.bind_some, hsigns, Bool.false_and, Bool.false_eq_true, if_false,
    hsupersedes, hset, List.append_nil]

/-- `rotate` would accept the token: it verifies, its row is there, unrevoked and unexpired, and
its user is active. -/
def accepts (cfg : TokenConfig) (s : Sessions) (token : RefreshJwt) (now : Time) : Bool :=
  s.verifies token now &&
    (s.db.refreshTokens.find? token.payload.jti).any fun stored =>
      stored.tokenHash = cfg.hash token && stored.revokedAt.isNone && now ≤ stored.expiresAt &&
        (s.db.users.find? stored.userId).any (·.isActive)

/-- No token of the family can be used any more. -/
def RevokedFamily (s : Sessions) (familyId : Uuid) : Prop :=
  ∀ r ∈ s.db.refreshTokens.rows, r.familyId = familyId → r.revokedAt ≠ none

/-- An accepted token has an unrevoked row in its family. -/
lemma exists_unrevoked_of_accepts {cfg : TokenConfig} {s : Sessions} {token : RefreshJwt}
    {now : Time} (hs : s.Owned cfg) (h : s.accepts cfg token now) :
    ∃ r ∈ s.db.refreshTokens.rows, r.familyId = token.payload.familyId ∧ r.revokedAt = none := by
  obtain ⟨hverifies, hstored⟩ := Bool.and_eq_true_iff.mp h
  obtain ⟨stored, hfind, hstored⟩ := (Option.any_eq_true _ _).mp hstored
  obtain ⟨hrow, hid⟩ := Table.find?_eq_some.mp hfind
  simp only [Bool.and_eq_true, Option.isNone_iff_eq_none] at hstored
  have hrecords := hs.records (signed_of_verifies hverifies) hrow hid
  exact ⟨stored, hrow, hrecords.familyId, hstored.1.1.2⟩

end Sessions

namespace Tab

variable {Profile : Type}

/-- `AuthService.logout` in the tab, the answer of the server to its request, and what the tab does
with this answer. -/
def logoutExchange (cfg : TokenConfig) (genuine : AccessJwt → Bool) (env : TokenEnv)
    (b : Tab AccessJwt RefreshJwt Profile) (s : Sessions) :
    Option (Tab AccessJwt RefreshJwt Profile × Sessions) :=
  (b.step .logout).bind fun b₁ =>
    b₁.requests[b.requests.length]?.bind fun r =>
      match r.call, r.phase with
      | .logout refreshToken, .sent bearer =>
        let (answer, s') := AuthController.logout cfg genuine env s bearer refreshToken
        (b₁.step (.responded b.requests.length (answer.map fun _ => .data))).map (·, s')
      | _, _ => none

/-- The caller of the request has been told how it ended. -/
def Answered (b : Tab AccessJwt RefreshJwt Profile) (i : Nat) : Prop :=
  b.phase? i = some .succeeded ∨ ∃ error, b.phase? i = some (.failed error)

variable {cfg : TokenConfig} {genuine : AccessJwt → Bool} {env : TokenEnv}
  {b : Tab AccessJwt RefreshJwt Profile} {s : Sessions} {token : RefreshJwt}

/-- The request of `logout` carries the access token that was stored before. -/
lemma request_logout (hstored : b.storage.refreshToken = some token) :
    (b.logout none).requests[b.requests.length]? =
      some ⟨.logout token, .sent b.storage.accessToken⟩ := by
  have hfree : isAuthFree (ClientCall.logout token).url = false := by
    change isAuthFree "/api/auth/logout" = false
    decide
  simp [logout, hstored, subscribe, hfree]

/-- The endpoint moves the server by steps of its own. -/
lemma exec_logout (cfg : TokenConfig) (genuine : AccessJwt → Bool) (env : TokenEnv) (s : Sessions)
    (bearer : Option AccessJwt) (token : RefreshJwt) :
    ∃ fs, Machine.exec (Sessions.step cfg) s fs =
      some (AuthController.logout cfg genuine env s bearer token).2 := by
  unfold AuthController.logout
  split
  · let call : TokenCall := if s.verifies token env.now then .revoke token else .done .revoked
    have hsigns : call.signs = false := by
      dsimp only [call]
      split_ifs <;> rfl
    have hsupersedes : ∀ call', call.supersedes call' = [] := by
      dsimp only [call]
      split_ifs <;> exact fun _ => rfl
    have hlast := Sessions.step_last cfg env s hsigns hsupersedes
    refine ⟨[.revoke token env.now, .proceed s.calls.length env], ?_⟩
    dsimp only
    split <;> exact congrArg (Option.bind · _) hlast
  · exact ⟨[], rfl⟩

/-- The guard lets the request pass, so the family is revoked. -/
lemma logout_of_canActivate {bearer : Option AccessJwt} (hfault : env.fault = none)
    (hverifies : s.verifies token env.now)
    (hguard : JwtAuthGuard.canActivate genuine s.db.users env.now bearer) :
    ∃ s', AuthController.logout cfg genuine env s bearer token = (.ok (), s') ∧
      s'.RevokedFamily token.payload.familyId := by
  refine ⟨{ s with
    db := TokenService.revokeFamily env s.db token.payload.familyId
    signed := s.signed ++ []
    calls := s.calls ++ [.done .revoked] }, ?_,
    fun r hr hfamily => TokenService.revokedAt_revokeFamily hr hfamily⟩
  simp only [AuthController.logout, hguard, if_true, hverifies, TokenCall.exec, hfault]

/-- The guard refuses the request, and nothing happens. -/
lemma logout_of_not_canActivate {bearer : Option AccessJwt}
    (hguard : ¬JwtAuthGuard.canActivate genuine s.db.users env.now bearer) :
    AuthController.logout cfg genuine env s bearer token =
      (.error ⟨401, "Unauthorized"⟩, s) := if_neg hguard

lemma step_responded_ok {i : Nat} {call : ClientCall RefreshJwt} {bearer : Option AccessJwt}
    {body : Body AccessJwt RefreshJwt Profile}
    (hrequest : b.requests[i]? = some ⟨call, .sent bearer⟩) (hbody : call.expects body) :
    b.step (.responded i (.ok body)) = some ((b.setPhase i .succeeded).tap body) := by
  simp only [step, hrequest, Option.bind_some, hbody, if_true]

lemma step_responded_error {i : Nat} {call : ClientCall RefreshJwt} {bearer : Option AccessJwt}
    {error : HttpErrorResponse} (hrequest : b.requests[i]? = some ⟨call, .sent bearer⟩) :
    b.step (.responded i (.error error)) = some (b.catchError i call error) := by
  simp only [step, hrequest, Option.bind_some]

/-- The tab has nothing left to handle a 401 of `/auth/logout` with. -/
lemma step_refused (hstored : b.storage.refreshToken = some token) (error : HttpErrorResponse) :
    (b.logout none).step (.responded b.requests.length (.error error)) =
      some ((b.logout none).setPhase b.requests.length (.failed error)) := by
  have hcatches : (b.logout none).catches (.logout token) error = false := by
    simp [catches, logout, TokenStorage.clear]
  rw [step_responded_error (request_logout hstored), catchError, hcatches]
  rfl

lemma step_accepted (hstored : b.storage.refreshToken = some token) :
    (b.logout none).step (.responded b.requests.length (.ok .data)) =
      some ((b.logout none).setPhase b.requests.length .succeeded) :=
  step_responded_ok (request_logout hstored) rfl

/-- For a tab with a refresh token that the server would still accept and a server without faults:
once the request of `logout` has been answered, the family of the token is revoked if and only if
the access token that was stored is one the guard accepts. -/
theorem logout_revokes_iff (cfg : TokenConfig) (genuine : AccessJwt → Bool) (users : Table User)
    {es : List SessionEvent}
    (hs : Machine.exec (Sessions.step cfg) (Sessions.initial users) es = some s)
    (hstored : b.storage.refreshToken = some token) (haccepts : s.accepts cfg token env.now)
    (hfault : env.fault = none) :
    ∃ b' s', logoutExchange cfg genuine env b s = some (b', s') ∧ b'.Answered b.requests.length ∧
      (∃ fs, Machine.exec (Sessions.step cfg) s fs = some s') ∧
      (s'.RevokedFamily token.payload.familyId ↔
        JwtAuthGuard.canActivate genuine s.db.users env.now b.storage.accessToken) := by
  have howned := (Sessions.owned_of_exec hs).2
  have hstep : b.step .logout = some (b.logout none) := rfl
  have hsent := phase?_of_request (request_logout hstored)
  have hserver := exec_logout cfg genuine env s b.storage.accessToken token
  by_cases hguard : JwtAuthGuard.canActivate genuine s.db.users env.now b.storage.accessToken
  · have hverifies : s.verifies token env.now := (Bool.and_eq_true_iff.mp haccepts).1
    obtain ⟨s', hanswer, hrevoked⟩ := logout_of_canActivate hfault hverifies hguard
    rw [hanswer] at hserver
    refine ⟨_, s', ?_, .inl (phase?_setPhase_self hsent), hserver, iff_of_true hrevoked hguard⟩
    simp only [logoutExchange, hstep, Option.bind_some, request_logout hstored, hanswer]
    exact congrArg (Option.map (·, s')) (step_accepted hstored)
  · have hanswer : AuthController.logout cfg genuine env s b.storage.accessToken token =
        (.error ⟨401, "Unauthorized"⟩, s) := logout_of_not_canActivate hguard
    rw [hanswer] at hserver
    refine ⟨_, s, ?_, .inr ⟨⟨401, "Unauthorized"⟩, phase?_setPhase_self hsent⟩, hserver,
      iff_of_false (fun hrevoked => ?_) hguard⟩
    · simp only [logoutExchange, hstep, Option.bind_some, request_logout hstored, hanswer]
      exact congrArg (Option.map (·, s)) (step_refused hstored _)
    · obtain ⟨r, hr, hfamily, hnone⟩ := Sessions.exists_unrevoked_of_accepts howned haccepts
      exact hrevoked r hr hfamily hnone

end Tab

/-! ### A customer logs out -/

namespace Seed

/-- The customer has logged in. -/
def customerLogin : List SessionEvent :=
  [.issue session context 900, .proceed 0 (tokenEnv 1)]

/-- The access token issued with the refresh token. -/
def accessToken : AccessJwt := ⟨⟨13, "customer@acme.test", .customer, 1⟩, 1, 901⟩

/-- The tab of the customer. -/
def customerTab : Tab AccessJwt RefreshJwt Nat := .initial ⟨some accessToken, some (token 1)⟩

end Seed

theorem logout_revokes_iff_fresh :
    ∃ s b' s', Machine.exec (Sessions.step Seed.tokenConfig) (Sessions.initial Seed.users)
        Seed.customerLogin = some s ∧
      Seed.customerTab.logoutExchange Seed.tokenConfig (fun _ => true) (Seed.tokenEnv 2) s =
        some (b', s') ∧ s'.RevokedFamily 900 := by
  have hrun : (Machine.exec (Sessions.step Seed.tokenConfig) (Sessions.initial Seed.users)
      Seed.customerLogin).any fun s =>
        s.accepts Seed.tokenConfig (Seed.token 1) (Seed.tokenEnv 2).now ∧
          JwtAuthGuard.canActivate (fun _ => true) s.db.users 2 (some Seed.accessToken) := by decide
  obtain ⟨s, hs, haccepts, hguard⟩ := Machine.exists_of_any hrun
  have hstored : Seed.customerTab.storage.refreshToken = some (Seed.token 1) := rfl
  obtain ⟨b', s', hexchange, -, -, hiff⟩ :=
    Tab.logout_revokes_iff Seed.tokenConfig (fun _ => true) Seed.users hs hstored haccepts rfl
  exact ⟨s, b', s', hs, hexchange, hiff.mpr hguard⟩

/-- The customer comes back when the access token has expired, and logs out. -/
theorem not_revoked_expired :
    ¬∀ (es : List SessionEvent) (s s' : Sessions) (b b' : Tab AccessJwt RefreshJwt Nat)
      (token : RefreshJwt) (env : TokenEnv),
        Machine.exec (Sessions.step Seed.tokenConfig) (Sessions.initial Seed.users) es = some s →
          b.storage.refreshToken = some token → s.accepts Seed.tokenConfig token env.now →
            env.fault = none →
              b.logoutExchange Seed.tokenConfig (fun _ => true) env s = some (b', s') →
                s'.RevokedFamily token.payload.familyId := by
  intro h
  have hrun : (Machine.exec (Sessions.step Seed.tokenConfig) (Sessions.initial Seed.users)
      Seed.customerLogin).any fun s => s.accepts Seed.tokenConfig (Seed.token 1) 1000 ∧
        (Seed.customerTab.logoutExchange Seed.tokenConfig (fun _ => true) (Seed.tokenEnv 1000)
          s).any fun p => p.2.db.refreshTokens.rows.any fun r =>
            r.familyId = 900 ∧ r.revokedAt = none := by decide
  obtain ⟨s, hs, haccepts, hexchange⟩ := Machine.exists_of_any hrun
  obtain ⟨⟨b', s'⟩, hexchange, hrow⟩ := (Option.any_eq_true _ _).mp hexchange
  obtain ⟨r, hr, hopen⟩ := List.any_eq_true.mp hrow
  obtain ⟨hfamily, hnone⟩ := of_decide_eq_true hopen
  exact h _ s s' Seed.customerTab b' (Seed.token 1) (Seed.tokenEnv 1000) hs rfl haccepts rfl
    hexchange r hr hfamily hnone

end SupportPlatform
