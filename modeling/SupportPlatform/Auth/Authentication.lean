import SupportPlatform.Api.Calls
import SupportPlatform.Auth.RotateAtomic
import SupportPlatform.Core.History

/-!
# Authentication

`register`, `login`, `refresh` and `logout` of `AuthService` with the token calls they lead to, any
number of them, interleaved statement by statement with one another and with what the other services
do to the users. A token is signed for nobody but who has shown the password of an account or has
registered it, and for nobody whose account is not active.
-/

namespace SupportPlatform

/-- The settings of `AuthService`: those of the tokens, and `bcrypt.compare`. -/
structure AuthConfig extends TokenConfig where
  compare : String → String → Bool

/-- What the outside world contributes to a step, with the uuid of a new family. -/
structure AuthEnv where
  env : Env
  token : TokenEnv
  familyId : Uuid

/-- Where a call of `AuthService` stands. -/
inductive AuthCall where
  | register (dto : RegisterDto) (context : RequestContext)
  | registerEmail (dto : RegisterDto) (context : RequestContext)
  | registerInsert (dto : RegisterDto) (context : RequestContext)
  | login (dto : LoginDto) (context : RequestContext)
  | loginStamp (user : User) (context : RequestContext)
  | token (call : TokenCall)
  | failed (e : Failure)

/-- What `issueTokens` takes of a user. -/
def User.authenticated (u : User) : AuthenticatedUser := ⟨u.id, u.email, u.role, u.organizationId⟩

namespace AuthService

/-- Who gets through has shown the password of an active account. -/
lemma authenticate_ok {compare : String → String → Bool} {dto : LoginDto} {db : Db} {user : User}
    (h : authenticate compare dto db = .ok user) :
    user ∈ db.users.rows ∧ user.email = dto.email ∧ user.isActive ∧
      compare dto.password user.passwordHash := by
  unfold authenticate at h
  split at h
  · next hnone =>
    rw [checkCredentials, hnone] at h
    cases h
  · next found hfound =>
    rw [checkCredentials, hfound] at h
    dsimp only at h
    split_ifs at h with hpassed
    cases h
    obtain ⟨hactive, hcompare⟩ := (Bool.and_eq_true _ _).mp hpassed
    have hemail : user.email = dto.email := by simpa using List.find?_some hfound
    exact ⟨List.mem_of_find?_eq_some hfound, hemail, hactive, hcompare⟩

end AuthService

namespace AuthCall

/-- A query and what the code makes of its result. -/
def query {α : Type} (env : Env) (db : Db) (check : Db → Except HttpException α)
    (next : α → AuthCall) : AuthCall :=
  match env.fault .query with
  | some e => .failed (.prisma e)
  | none =>
    match check db with
    | .error e => .failed (.http e)
    | .ok a => next a

lemma query_cases {α : Type} (env : Env) (db : Db) (check : Db → Except HttpException α)
    (next : α → AuthCall) :
    (∃ e, query env db check next = .failed e) ∨
      ∃ a, check db = .ok a ∧ query env db check next = next a := by
  unfold query
  split
  · exact .inl ⟨_, rfl⟩
  · split
    · exact .inl ⟨_, rfl⟩
    · next a ha => exact .inr ⟨a, ha, rfl⟩

/-- The next step of a call: the tables, the tokens signed, and where the call goes on. -/
def exec (cfg : AuthConfig) (e : AuthEnv) (db : Db) (refreshTokens : Table RefreshToken) :
    AuthCall → Db × Table RefreshToken × List RefreshJwt × AuthCall
  | .register dto context =>
    (db, refreshTokens, [], query e.env db (AuthService.checkOrganization dto) fun _ =>
      .registerEmail dto context)
  | .registerEmail dto context =>
    (db, refreshTokens, [], query e.env db (UsersService.checkEmail dto.email) fun _ =>
      .registerInsert dto context)
  | .registerInsert dto context =>
    match (AuthService.insert dto).commit e.env db with
    | (.error err, db') => (db', refreshTokens, [], .failed (.prisma err))
    | (.ok user, db') =>
      (db', refreshTokens, [], .token (.issue user.authenticated context e.familyId))
  | .login dto context =>
    (db, refreshTokens, [], query e.env db (AuthService.authenticate cfg.compare dto) fun user =>
      .loginStamp user context)
  | .loginStamp user context =>
    match (AuthService.stampLogin user.id).commit e.env db with
    | (.error err, db') => (db', refreshTokens, [], .failed (.prisma err))
    | (.ok _, db') =>
      (db', refreshTokens, [], .token (.issue user.authenticated context e.familyId))
  | .token call =>
    let (tokens, signed, call') := call.exec cfg.toTokenConfig e.token ⟨db.users, refreshTokens⟩
    (db, tokens.refreshTokens, signed, .token call')
  | .failed err => (db, refreshTokens, [], .failed err)

/-- All that a step of a call can do. -/
inductive Executes (cfg : AuthConfig) (e : AuthEnv) (db : Db)
    (refreshTokens : Table RefreshToken) :
    AuthCall → Db → Table RefreshToken → List RefreshJwt → AuthCall → Prop
  | failed {call err} : Executes cfg e db refreshTokens call db refreshTokens [] (.failed err)
  | register {dto context} :
    Executes cfg e db refreshTokens (.register dto context) db refreshTokens []
      (.registerEmail dto context)
  | registerEmail {dto context} :
    Executes cfg e db refreshTokens (.registerEmail dto context) db refreshTokens []
      (.registerInsert dto context)
  | registered {dto context user db'} (h : AuthService.insert dto e.env db = .ok (user, db')) :
    Executes cfg e db refreshTokens (.registerInsert dto context) db' refreshTokens []
      (.token (.issue user.authenticated context e.familyId))
  | login {dto context user} (h : AuthService.authenticate cfg.compare dto db = .ok user) :
    Executes cfg e db refreshTokens (.login dto context) db refreshTokens []
      (.loginStamp user context)
  | stamped {user context a db'} (h : AuthService.stampLogin user.id e.env db = .ok (a, db')) :
    Executes cfg e db refreshTokens (.loginStamp user context) db' refreshTokens []
      (.token (.issue user.authenticated context e.familyId))
  | token {call tokens signed call'}
    (h : TokenCall.exec cfg.toTokenConfig e.token ⟨db.users, refreshTokens⟩ call =
      (tokens, signed, call')) :
    Executes cfg e db refreshTokens (.token call) db tokens.refreshTokens signed (.token call')

theorem exec_cases {cfg : AuthConfig} {e : AuthEnv} {db db' : Db}
    {refreshTokens refreshTokens' : Table RefreshToken} {call call' : AuthCall}
    {signed : List RefreshJwt}
    (h : call.exec cfg e db refreshTokens = (db', refreshTokens', signed, call')) :
    Executes cfg e db refreshTokens call db' refreshTokens' signed call' := by
  cases call with
  | register dto context =>
    cases h
    rcases query_cases e.env db (AuthService.checkOrganization dto)
        (fun _ => .registerEmail dto context) with ⟨err, heq⟩ | ⟨a, -, heq⟩
    · rw [heq]
      exact .failed
    · rw [heq]
      exact .register
  | registerEmail dto context =>
    cases h
    rcases query_cases e.env db (UsersService.checkEmail dto.email)
        (fun _ => .registerInsert dto context) with ⟨err, heq⟩ | ⟨a, -, heq⟩
    · rw [heq]
      exact .failed
    · rw [heq]
      exact .registerEmail
  | login dto context =>
    cases h
    rcases query_cases e.env db (AuthService.authenticate cfg.compare dto)
        (fun user => .loginStamp user context) with ⟨err, heq⟩ | ⟨a, hok, heq⟩
    · rw [heq]
      exact .failed
    · rw [heq]
      exact .login hok
  | registerInsert dto context =>
    rw [exec] at h
    split at h
    · next err _ herr =>
      cases h
      rw [Transaction.commit_error herr]
      exact .failed
    · next user _ hok =>
      cases h
      exact .registered (Transaction.commit_eq_ok.mp hok)
  | loginStamp user context =>
    rw [exec] at h
    split at h
    · next err _ herr =>
      cases h
      rw [Transaction.commit_error herr]
      exact .failed
    · next a _ hok =>
      cases h
      exact .stamped (Transaction.commit_eq_ok.mp hok)
  | token call =>
    cases h
    exact .token rfl
  | failed err =>
    cases h
    exact .failed

end AuthCall

/-! ### Runs -/

/-- The tables, the tokens signed, the families opened and the calls in progress. -/
structure Authentication where
  db : Db
  refreshTokens : Table RefreshToken
  signed : List RefreshJwt
  families : List Uuid
  calls : List AuthCall

/-- What happens: a request to one of the four routes, a step of a call, or a step of a call of
another service. `logout` comes with the subject of a verified access token, if there is one. -/
inductive AuthEvent where
  | register (dto : RegisterDto) (context : RequestContext)
  | login (dto : LoginDto) (context : RequestContext)
  | refresh (token : RefreshJwt) (context : RequestContext) (now : Time)
  | logout (sub : Option Uuid) (token : RefreshJwt) (now : Time)
  | proceed (i : Nat) (env : AuthEnv)
  | other (env : Env) (call : Call)

/-- The tokens that the call has returned. -/
def TokenCall.delivers : TokenCall → List AuthTokens
  | .done (.issued tokens) | .done (.rotated _ tokens) => [tokens]
  | _ => []

namespace AuthCall

/-- The call signs a token in its next step. -/
def signs : AuthCall → Bool
  | .token (.issue ..) | .token (.rotateIssue ..) => true
  | _ => false

/-- The family that the call is about to open. -/
def opens : AuthCall → List Uuid
  | .token (.issue _ _ familyId) => [familyId]
  | _ => []

/-- The tokens that the call has returned. -/
def delivers : AuthCall → List AuthTokens
  | .token call => call.delivers
  | _ => []

end AuthCall

/-- A call that is about to sign a token does so for a user of whom `P` holds, and a row that is
being rotated belongs to one of whom `Q` holds. -/
def TokenCall.Entitled (P Q : Uuid → Prop) : TokenCall → Prop
  | .issue user _ _ | .rotateRevoke _ _ _ user | .rotateIssue _ _ user _ => P user.id
  | .rotateUser _ _ stored => Q stored.userId
  | .rotate _ _ | .rotateReuse _ _ | .revoke _ | .done _ => True

/-- The same of a call of `AuthService`. -/
def AuthCall.Entitled (P Q : Uuid → Prop) : AuthCall → Prop
  | .token call => call.Entitled P Q
  | .loginStamp user _ => P user.id
  | .register _ _ | .registerEmail _ _ | .registerInsert _ _ | .login _ _ | .failed _ => True

namespace Authentication

/-- Nobody has a token or is asking for one. -/
def initial (db : Db) : Authentication := ⟨db, .empty, [], [], []⟩

/-- `verifyAsync`: the token was signed with the secret of the service and has not expired. -/
def verifies (s : Authentication) (token : RefreshJwt) (now : Time) : Bool :=
  token ∈ s.signed && now < token.exp

/-- A uuid that no token was signed with and no row was created with. -/
def fresh (s : Authentication) (jti : Uuid) : Bool :=
  jti ∉ s.signed.map (·.payload.jti) && jti ∉ s.refreshTokens.keys

def push (s : Authentication) (call : AuthCall) : Authentication :=
  { s with calls := s.calls ++ [call] }

/-- One step; `none` when the event is not enabled. -/
def step (cfg : AuthConfig) (s : Authentication) : AuthEvent → Option Authentication
  | .register dto context => some (s.push (.register dto context))
  | .login dto context => some (s.push (.login dto context))
  | .refresh token context now =>
    some (s.push (.token (
      if s.verifies token now then .rotate token context
      else .done (.failed (.unauthorized "Invalid refresh token")))))
  | .logout sub token now =>
    some (s.push (
      match sub.map (JwtStrategy.validate s.db) with
      | some (.ok _) =>
        .token (if s.verifies token now then .revoke token else .done .revoked)
      | _ => .failed (.http (.unauthorized "Authentication required"))))
  | .proceed i env =>
    s.calls[i]?.bind fun call =>
      let (db, refreshTokens, signed, call') := call.exec cfg env s.db s.refreshTokens
      if (call.signs && !s.fresh env.token.jti) || call'.opens.any (· ∈ s.families) then none
      else
        some
          { db
            refreshTokens
            signed := s.signed ++ signed
            families := s.families ++ call'.opens
            calls := s.calls.set i call' }
  | .other env call =>
    let db := (call.exec env s.db).1
    some { s with
      db
      -- `ON DELETE CASCADE`
      refreshTokens := s.refreshTokens.removeWhere fun r => (db.users.find? r.userId).isNone }

/-- All that a step can do. -/
inductive Steps (cfg : AuthConfig) (s : Authentication) : AuthEvent → Authentication → Prop
  | received {e call} (hentitled : ∀ P Q, call.Entitled P Q) (hdelivers : call.delivers = []) :
    Steps cfg s e (s.push call)
  | proceed {i env call db refreshTokens signed call'} (hcall : s.calls[i]? = some call)
    (h : call.exec cfg env s.db s.refreshTokens = (db, refreshTokens, signed, call')) :
    Steps cfg s (.proceed i env)
      { db
        refreshTokens
        signed := s.signed ++ signed
        families := s.families ++ call'.opens
        calls := s.calls.set i call' }
  | other {e db} {p : RefreshToken → Bool} :
    Steps cfg s e { s with db, refreshTokens := s.refreshTokens.removeWhere p }

theorem step_cases {cfg : AuthConfig} {s t : Authentication} {e : AuthEvent}
    (h : step cfg s e = some t) : Steps cfg s e t := by
  cases e with
  | register | login =>
    cases h
    exact .received (fun _ _ => trivial) rfl
  | refresh =>
    cases h
    split_ifs <;> exact .received (fun _ _ => trivial) rfl
  | logout =>
    cases h
    split
    · split_ifs <;> exact .received (fun _ _ => trivial) rfl
    · exact .received (fun _ _ => trivial) rfl
  | proceed i env =>
    obtain ⟨call, hcall, h⟩ := Option.bind_eq_some_iff.mp h
    dsimp only at h
    split_ifs at h
    cases h
    exact .proceed hcall rfl
  | other =>
    cases h
    exact .other

end Authentication

/-! ### The accounts of the seed script -/

namespace Seed

/-- The password of the demo users, and nothing else, matches their hash. -/
def authConfig : AuthConfig :=
  { tokenConfig with compare := fun password hash => password = "Password123!" && hash = "hash" }

def authEnv (n : Nat) : AuthEnv := ⟨env n, tokenEnv n, 900 + n⟩

def authDb : Db := { Db.empty with organizations, users }

def loginDto : LoginDto := ⟨"customer@acme.test", "Password123!"⟩

/-- The customer has a token, and is not active any more. -/
def deactivated : Authentication where
  db :=
    { authDb with
      users := users.modify 13 (fun u => { u with isActive := false }) fun _ => rfl }
  refreshTokens := loggedInDb.refreshTokens
  signed := [token 1]
  families := [900]
  calls := []

end Seed

/-! ### Who a call acts for -/

section Entitled

variable {P Q : Uuid → Prop}

lemma TokenCall.rows_modify {p : RefreshToken → Bool} {env : TokenEnv}
    {rows : List RefreshToken} (hrows : ∀ r ∈ rows, Q r.userId) :
    ∀ r ∈ rows.map fun r => if p r then RefreshToken.revoke env.now r else r, Q r.userId := by
  intro r hr
  obtain ⟨a, ha, rfl⟩ := List.mem_map.mp hr
  split <;> exact hrows a ha

/-- Tokens are signed and rows created for entitled users, if an active user is entitled as soon as
a row belongs to him. -/
lemma TokenCall.Executes.entitled {cfg : TokenConfig} {env : TokenEnv} {db db' : TokenDb}
    {call call' : TokenCall} {signed : List RefreshJwt}
    (h : Executes cfg env db call db' signed call') (hcall : call.Entitled P Q)
    (hrows : ∀ r ∈ db.refreshTokens.rows, Q r.userId)
    (hactive : ∀ user ∈ db.users.rows, user.isActive → Q user.id → P user.id)
    (hPQ : ∀ id, P id → Q id) :
    call'.Entitled P Q ∧ (∀ t ∈ signed, P t.payload.sub) ∧
      ∀ r ∈ db'.refreshTokens.rows, Q r.userId := by
  have created : ∀ {user context familyId}, P user.id →
      Creates cfg env db user context familyId db' → ∀ r ∈ db'.refreshTokens.rows, Q r.userId := by
    rintro user context familyId huser ⟨_, _, -, -, hins, rfl⟩ r hr
    rcases (Table.mem_insert? hins).mp hr with hr | rfl
    · exact hrows r hr
    · exact hPQ _ huser
  have hnil : ∀ t ∈ ([] : List RefreshJwt), P t.payload.sub := by simp
  cases h with
  | issueFailed | rotateFailed =>
    exact ⟨trivial, fun t ht => List.mem_singleton.mp ht ▸ hcall, hrows⟩
  | issued h | rotated h =>
    exact ⟨trivial, fun t ht => List.mem_singleton.mp ht ▸ hcall, created hcall h⟩
  | found hfind => exact ⟨hrows _ (Table.find?_eq_some.mp hfind).1, hnil, hrows⟩
  | @active token context stored user hfind hisActive =>
    obtain ⟨hmem, hid⟩ := Table.find?_eq_some.mp hfind
    have hid : user.id = stored.userId := hid
    exact ⟨hactive user hmem hisActive (hid.symm ▸ hcall), hnil, hrows⟩
  | superseded => exact ⟨hcall, hnil, TokenCall.rows_modify hrows⟩
  | detected | revoked => exact ⟨trivial, hnil, TokenCall.rows_modify hrows⟩
  | failed | finished | reused => exact ⟨trivial, hnil, hrows⟩

namespace Authentication

variable {cfg : AuthConfig} {s t : Authentication} {e : AuthEvent}

structure Entitles (P Q : Uuid → Prop) (s : Authentication) : Prop where
  calls : ∀ c ∈ s.calls, c.Entitled P Q
  rows : ∀ r ∈ s.refreshTokens.rows, Q r.userId

/-- The step shows the password of the account, or registers it. -/
def Authenticates (cfg : AuthConfig) (s : Authentication) (e : AuthEvent) (id : Uuid) : Prop :=
  ∃ i env, e = .proceed i env ∧
    ((∃ dto context user, s.calls[i]? = some (.login dto context) ∧
        AuthService.authenticate cfg.compare dto s.db = .ok user ∧ user.id = id) ∨
      ∃ dto context user db, s.calls[i]? = some (.registerInsert dto context) ∧
        AuthService.insert dto env.env s.db = .ok (user, db) ∧ user.id = id)

/-- A step of a call leads to a call for an entitled user. -/
lemma entitled_of_exec {env : AuthEnv} {i : Nat} {call call' : AuthCall} {db : Db}
    {refreshTokens : Table RefreshToken} {signed : List RefreshJwt} (hs : s.Entitles P Q)
    (hcall : s.calls[i]? = some call)
    (h : call.exec cfg env s.db s.refreshTokens = (db, refreshTokens, signed, call'))
    (hauthenticates : ∀ id, Authenticates cfg s (.proceed i env) id → P id)
    (hactive : ∀ user ∈ s.db.users.rows, user.isActive → Q user.id → P user.id)
    (hPQ : ∀ id, P id → Q id) :
    call'.Entitled P Q ∧ (∀ token ∈ signed, P token.payload.sub) ∧
      ∀ r ∈ refreshTokens.rows, Q r.userId := by
  have hnil : ∀ token ∈ ([] : List RefreshJwt), P token.payload.sub := by simp
  have hentitled := hs.calls call (List.mem_of_getElem? hcall)
  cases AuthCall.exec_cases h with
  | failed | register | registerEmail => exact ⟨trivial, hnil, hs.rows⟩
  | @registered dto context user _ hinsert =>
    have huser : P user.id :=
      hauthenticates _ ⟨i, env, rfl, .inr ⟨dto, context, user, _, hcall, hinsert, rfl⟩⟩
    exact ⟨huser, hnil, hs.rows⟩
  | @login dto context user hok =>
    have huser : P user.id :=
      hauthenticates _ ⟨i, env, rfl, .inl ⟨dto, context, user, hcall, hok, rfl⟩⟩
    exact ⟨huser, hnil, hs.rows⟩
  | stamped => exact ⟨hentitled, hnil, hs.rows⟩
  | token htoken => exact (TokenCall.exec_cases htoken).entitled hentitled hs.rows hactive hPQ

/-- If the step authenticates entitled users only, and an active user is entitled as soon as a row
belongs to him, then tokens are signed for entitled users only. -/
lemma entitles_step (hs : s.Entitles P Q) (h : step cfg s e = some t)
    (hauthenticates : ∀ id, Authenticates cfg s e id → P id)
    (hactive : ∀ user ∈ s.db.users.rows, user.isActive → Q user.id → P user.id)
    (hPQ : ∀ id, P id → Q id) :
    t.Entitles P Q ∧ ∀ token ∈ t.signed, token ∈ s.signed ∨ P token.payload.sub := by
  cases step_cases h with
  | received hentitled =>
    refine ⟨⟨fun c hc => ?_, hs.rows⟩, fun token ht => .inl ht⟩
    rcases List.mem_append.mp hc with hc | hc
    · exact hs.calls c hc
    · exact List.mem_singleton.mp hc ▸ hentitled P Q
  | proceed hcall hexec =>
    obtain ⟨hcall', hsigned, hrows⟩ :=
      entitled_of_exec hs hcall hexec hauthenticates hactive hPQ
    refine ⟨⟨fun c hc => ?_, hrows⟩, fun token ht => ?_⟩
    · rcases List.mem_or_eq_of_mem_set hc with hc | rfl
      · exact hs.calls c hc
      · exact hcall'
    · exact (List.mem_append.mp ht).imp id (hsigned token)
  | other => exact ⟨⟨hs.calls, fun r hr => hs.rows r (List.mem_filter.mp hr).1⟩, fun _ => .inl⟩

/-! ### Proof of identity -/

/-- The account was authenticated by a step of the history. -/
def Proven (cfg : AuthConfig) (past : List (Authentication × AuthEvent)) (id : Uuid) : Prop :=
  ∃ x ∈ past, Authenticates cfg x.1 x.2 id

lemma Proven.mono {past past' : List (Authentication × AuthEvent)} {id : Uuid}
    (h : Proven cfg past id) (hpast : past ⊆ past') : Proven cfg past' id := by
  obtain ⟨x, hx, hid⟩ := h
  exact ⟨x, hpast hx, hid⟩

end Authentication

lemma AuthCall.Entitled.mono {P' Q' : Uuid → Prop} {c : AuthCall} (h : c.Entitled P Q)
    (hP : ∀ id, P id → P' id) (hQ : ∀ id, Q id → Q' id) : c.Entitled P' Q' := by
  cases c with
  | token call =>
    cases call with
    | issue | rotateRevoke | rotateIssue => exact hP _ h
    | rotateUser => exact hQ _ h
    | _ => trivial
  | loginStamp => exact hP _ h
  | _ => trivial

end Entitled

namespace TokenService

/-- The tokens returned have the same subject, and the refresh token is one that was signed. -/
lemma issueTokens_ok {cfg : TokenConfig} {env : TokenEnv} {db db' : TokenDb}
    {user : AuthenticatedUser} {context : RequestContext} {familyId : Uuid} {tokens : AuthTokens}
    {signed : List RefreshJwt}
    (h : issueTokens cfg env db user context familyId = (.ok tokens, db', signed)) :
    tokens.refreshToken ∈ signed ∧ tokens.accessToken.sub = tokens.refreshToken.payload.sub := by
  unfold issueTokens at h
  split at h
  · cases h
  · cases h
  · dsimp only at h
    split at h <;> cases h
    exact ⟨List.mem_singleton_self _, rfl⟩

end TokenService

/-- What a step returns, it has signed. -/
lemma TokenCall.delivers_of_exec {cfg : TokenConfig} {env : TokenEnv} {db db' : TokenDb}
    {call call' : TokenCall} {signed : List RefreshJwt}
    (h : call.exec cfg env db = (db', signed, call')) {tokens : AuthTokens}
    (ht : tokens ∈ call'.delivers) :
    tokens ∈ call.delivers ∨ tokens.refreshToken ∈ signed ∧
      tokens.accessToken.sub = tokens.refreshToken.payload.sub := by
  have hexecutes := exec_cases h
  cases hexecutes with
  | finished => exact .inl ht
  | issued | rotated =>
    obtain rfl := List.mem_singleton.mp ht
    rw [exec] at h
    split at h
    · cases h
    · next hok =>
      cases h
      exact .inr (TokenService.issueTokens_ok hok)
  | _ => cases ht

lemma AuthCall.delivers_of_exec {cfg : AuthConfig} {env : AuthEnv} {db db' : Db}
    {refreshTokens refreshTokens' : Table RefreshToken} {call call' : AuthCall}
    {signed : List RefreshJwt}
    (h : call.exec cfg env db refreshTokens = (db', refreshTokens', signed, call'))
    {tokens : AuthTokens} (ht : tokens ∈ call'.delivers) :
    tokens ∈ call.delivers ∨ tokens.refreshToken ∈ signed ∧
      tokens.accessToken.sub = tokens.refreshToken.payload.sub := by
  cases exec_cases h with
  | token htoken => exact TokenCall.delivers_of_exec htoken ht
  | _ => cases ht

namespace Authentication

open Machine

variable {cfg : AuthConfig} {s t : Authentication} {e : AuthEvent} {db : Db}
  {es : List AuthEvent}

/-- The two tokens of a pair are for one user, and the refresh token is one that was signed. -/
def Paired (s : Authentication) (tokens : AuthTokens) : Prop :=
  tokens.refreshToken ∈ s.signed ∧ tokens.accessToken.sub = tokens.refreshToken.payload.sub

lemma paired_step (hs : ∀ c ∈ s.calls, ∀ tokens ∈ c.delivers, s.Paired tokens)
    (h : step cfg s e = some t) : ∀ c ∈ t.calls, ∀ tokens ∈ c.delivers, t.Paired tokens := by
  intro c hc tokens ht
  cases step_cases h with
  | @received _ call _ hdelivers =>
    rcases List.mem_append.mp hc with hc | hc
    · exact hs c hc tokens ht
    · rw [List.mem_singleton.mp hc, hdelivers] at ht
      cases ht
  | @proceed i env call db refreshTokens signed call' hcall hexec =>
    have kept : ∀ c' ∈ s.calls, tokens ∈ c'.delivers →
        tokens.refreshToken ∈ s.signed ++ signed ∧
          tokens.accessToken.sub = tokens.refreshToken.payload.sub := fun c' hc' ht' =>
      (hs c' hc' tokens ht').imp_left fun hmem => List.mem_append_left signed hmem
    rcases List.mem_or_eq_of_mem_set hc with hc | rfl
    · exact kept c hc ht
    · rcases AuthCall.delivers_of_exec hexec ht with hold | ⟨hsigned, hsub⟩
      · exact kept _ (List.mem_of_getElem? hcall) hold
      · exact ⟨List.mem_append_right _ hsigned, hsub⟩
  | other => exact hs c hc tokens ht

/-- No token, of either kind, is for an account that nobody has shown the password of and that
nobody has registered. -/
theorem tokens_authenticated (h : exec (step cfg) (initial db) es = some s) :
    (∀ token ∈ s.signed, Proven cfg (history (step cfg) (initial db) es) token.payload.sub) ∧
      ∀ c ∈ s.calls, ∀ tokens ∈ c.delivers,
        tokens.refreshToken ∈ s.signed ∧
          Proven cfg (history (step cfg) (initial db) es) tokens.accessToken.sub := by
  have hpaired := exec_invariant (step cfg)
    (I := fun s => ∀ c ∈ s.calls, ∀ tokens ∈ c.delivers, s.Paired tokens)
    (fun _ _ _ hs ht => paired_step hs ht) (fun _ hc => by cases hc) h
  have hproven := exec_history_invariant (step cfg) (I := fun s past =>
    s.Entitles (Proven cfg past) (Proven cfg past) ∧
      ∀ token ∈ s.signed, Proven cfg past token.payload.sub) ?_ ?_ h
  · refine ⟨hproven.2, fun c hc tokens ht => ?_⟩
    obtain ⟨hsigned, hsub⟩ := hpaired c hc tokens ht
    exact ⟨hsigned, hsub ▸ hproven.2 _ hsigned⟩
  · rintro s e t past ⟨hs, hsigned⟩ hstep
    have hpast : ∀ id, Proven cfg past id → Proven cfg (past ++ [(s, e)]) id :=
      fun _ hid => hid.mono (List.subset_append_left _ _)
    have hs' : s.Entitles (Proven cfg (past ++ [(s, e)])) (Proven cfg (past ++ [(s, e)])) :=
      ⟨fun c hc => (hs.calls c hc).mono hpast hpast, fun r hr => hpast _ (hs.rows r hr)⟩
    obtain ⟨ht, htokens⟩ := entitles_step hs' hstep
      (fun _ hid => ⟨(s, e), List.mem_append_right _ List.mem_cons_self, hid⟩)
      (fun _ _ _ hid => hid) (fun _ => id)
    refine ⟨ht, fun token hmem => ?_⟩
    exact (htokens token hmem).elim (fun hold => hpast _ (hsigned _ hold)) id
  · exact ⟨⟨fun _ hc => (by cases hc), fun _ hr => (by cases hr)⟩, fun _ ht => (by cases ht)⟩

/-- The customer logs in. -/
def authenticatedRun : List AuthEvent :=
  [.login Seed.loginDto Seed.context, .proceed 0 (Seed.authEnv 1), .proceed 0 (Seed.authEnv 2),
    .proceed 0 (Seed.authEnv 3)]

theorem tokens_authenticated_login :
    ∃ s, exec (step Seed.authConfig) (initial Seed.authDb) authenticatedRun = some s ∧
      s.signed.map (·.payload.sub) = [13] ∧
      (∀ token ∈ s.signed, Proven Seed.authConfig
        (history (step Seed.authConfig) (initial Seed.authDb) authenticatedRun)
          token.payload.sub) ∧
      ∀ c ∈ s.calls, ∀ tokens ∈ c.delivers,
        tokens.refreshToken ∈ s.signed ∧
          Proven Seed.authConfig
            (history (step Seed.authConfig) (initial Seed.authDb) authenticatedRun)
              tokens.accessToken.sub := by
  have hrun : (exec (step Seed.authConfig) (initial Seed.authDb) authenticatedRun).any fun s =>
      s.signed.map (·.payload.sub) = [13] := by decide
  obtain ⟨s, hs, hsub⟩ := exists_of_any hrun
  exact ⟨s, hs, hsub, tokens_authenticated hs⟩

/-! ### Deactivation -/

/-- Whoever has this id is not active. -/
def Inactive (u : Uuid) (db : Db) : Prop := ∀ v ∈ db.users.rows, v.id = u → v.isActive = false

instance (u : Uuid) (db : Db) : Decidable (Inactive u db) :=
  inferInstanceAs (Decidable (∀ v ∈ db.users.rows, v.id = u → v.isActive = false))

/-- A step that authenticates an account finds it active or leaves it so. -/
lemma active_of_authenticates (h : step cfg s e = some t) {id : Uuid}
    (ha : Authenticates cfg s e id) :
    ∃ v, (v ∈ s.db.users.rows ∨ v ∈ t.db.users.rows) ∧ v.id = id ∧ v.isActive = true := by
  obtain ⟨i, env, rfl, ⟨dto, context, user, -, hok, rfl⟩ |
    ⟨dto, context, user, db, hcall, hinsert, rfl⟩⟩ := ha
  · obtain ⟨hmem, -, hactive, -⟩ := AuthService.authenticate_ok hok
    exact ⟨user, .inl hmem, rfl, hactive⟩
  · obtain ⟨call, hcall', hstep⟩ := Option.bind_eq_some_iff.mp h
    obtain rfl := Option.some.inj (hcall.symm.trans hcall')
    dsimp only at hstep
    split_ifs at hstep
    have hcommit : (AuthService.insert dto).commit env.env s.db = (.ok user, db) :=
      Transaction.commit_eq_ok.mpr hinsert
    obtain ⟨-, -, -, users, hins, rfl, rfl⟩ := UsersService.insert_eq_ok.mp hinsert
    refine ⟨_, .inr ?_, rfl, rfl⟩
    have ht := (Option.some.inj hstep).symm
    subst ht
    simp only [AuthCall.exec, hcommit]
    exact (Table.mem_insert? hins).mpr (.inr rfl)

lemma validate_of_inactive {u : Uuid} {db : Db} (h : Inactive u db) :
    JwtStrategy.validate db u = .error (.unauthorized "User is no longer active") := by
  unfold JwtStrategy.validate
  split
  · rfl
  · next user hfind =>
    obtain ⟨hmem, hid⟩ := Table.find?_eq_some.mp hfind
    rw [h user hmem hid, if_neg Bool.false_ne_true]

/-- From a state in which no call has got past its check for a user, no token is signed for him and
none of his access tokens gets through as long as he is not active, whatever is requested. -/
theorem deactivated_excluded {u : Uuid} {s₀ : Authentication}
    (hcalls : ∀ c ∈ s₀.calls, c.Entitled (· ≠ u) fun _ => True)
    (h : exec (step cfg) s₀ es = some s)
    (hinactive : ∀ fs t, fs <+: es → exec (step cfg) s₀ fs = some t → Inactive u t.db) :
    (∀ token ∈ s.signed, token.payload.sub = u → token ∈ s₀.signed) ∧
      JwtStrategy.validate s.db u = .error (.unauthorized "User is no longer active") := by
  have key := exec_guarded_invariant (step cfg)
    (I := fun s => s.Entitles (· ≠ u) (fun _ => True) ∧
      ∀ token ∈ s.signed, token.payload.sub = u → token ∈ s₀.signed)
    (C := fun s e => Inactive u s.db ∧ ∀ t, step cfg s e = some t → Inactive u t.db) ?_
    ⟨⟨hcalls, fun _ _ => trivial⟩, fun _ ht _ => ht⟩ ?_ h
  · exact ⟨key.2, validate_of_inactive (hinactive es s List.prefix_rfl h)⟩
  · rintro s e t ⟨hs, hsigned⟩ ⟨hbefore, hafter⟩ hstep
    have hauthenticates : ∀ id, Authenticates cfg s e id → id ≠ u := by
      rintro id hid rfl
      obtain ⟨v, hv, hvid, hactive⟩ := active_of_authenticates hstep hid
      rcases hv with hv | hv
      · exact Bool.false_ne_true ((hbefore v hv hvid).symm.trans hactive)
      · exact Bool.false_ne_true ((hafter t hstep v hv hvid).symm.trans hactive)
    have hactive : ∀ user ∈ s.db.users.rows, user.isActive → True → user.id ≠ u :=
      fun user hmem hactive _ hid => Bool.false_ne_true ((hbefore user hmem hid).symm.trans hactive)
    obtain ⟨ht, htokens⟩ := entitles_step hs hstep hauthenticates hactive fun _ _ => trivial
    exact ⟨ht, fun token hmem hsub =>
      (htokens token hmem).elim (fun hold => hsigned token hold hsub) fun hne => absurd hsub hne⟩
  · refine (guarded_iff (step cfg) h).mpr ?_
    rintro fs e gs r rfl hr
    refine ⟨hinactive fs r (List.prefix_append fs (e :: gs)) hr, fun t ht => ?_⟩
    refine hinactive (fs ++ [e]) t ⟨gs, by simp⟩ ?_
    exact (exec_append (step cfg)).mpr ⟨r, hr, (exec_cons_eq_some (step cfg)).mpr ⟨t, ht, rfl⟩⟩

/-- The customer is shown out while he is asking for a new pair, and tries to log in again. -/
def refusedRun : List AuthEvent :=
  [.refresh (Seed.token 1) Seed.context 2, .proceed 0 (Seed.authEnv 3), .proceed 0 (Seed.authEnv 4),
    .login Seed.loginDto Seed.context, .proceed 1 (Seed.authEnv 5)]

theorem deactivated_excluded_refused :
    ∃ s, exec (step Seed.authConfig) Seed.deactivated refusedRun = some s ∧
      (∀ token ∈ s.signed, token.payload.sub = 13 → token ∈ Seed.deactivated.signed) ∧
      JwtStrategy.validate s.db 13 = .error (.unauthorized "User is no longer active") := by
  have hrun : (exec (step Seed.authConfig) Seed.deactivated refusedRun).any fun s =>
      Inactive 13 s.db := by decide
  obtain ⟨s, hs, hlast⟩ := exists_of_any hrun
  refine ⟨s, hs, deactivated_excluded (fun _ hc => by cases hc) hs ?_⟩
  have hguarded : Guarded (step Seed.authConfig) (fun s _ => Inactive 13 s.db) Seed.deactivated
      refusedRun := by decide
  rintro fs t ⟨gs, heq⟩ ht
  cases gs with
  | nil =>
    rw [List.append_nil] at heq
    subst heq
    cases hs.symm.trans ht
    exact hlast
  | cons e gs => exact (guarded_iff (step Seed.authConfig) hs).mp hguarded fs e gs t heq.symm ht

end Authentication

end SupportPlatform
