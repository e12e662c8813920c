import SupportPlatform.Schema.Statements

/-!
# TokenService

Refresh tokens are signed JWTs of which the database keeps a hash. A raw token is represented by
what was signed. `issueTokens`, `rotate` and `revoke` are sequences of database statements, each
one step of a `TokenCall`; what happens in memory between two statements belongs to the step before
it. The two signatures are made in the step of the insertion that follows them.
-/

namespace SupportPlatform

structure AccessTokenPayload where
  sub : Uuid
  email : String
  role : Role
  organizationId : Uuid
deriving DecidableEq, Repr

structure RefreshTokenPayload where
  sub : Uuid
  jti : Uuid
  familyId : Uuid
deriving DecidableEq, Repr

/-- A raw refresh token: the payload with the two times the library adds. -/
structure RefreshJwt where
  payload : RefreshTokenPayload
  iat : Time
  exp : Time
deriving DecidableEq, Repr

/-- What the caller of `issueTokens` and `rotate` gets. -/
structure AuthTokens where
  accessToken : AccessTokenPayload
  refreshToken : RefreshJwt
  tokenType : String
  expiresIn : String
deriving DecidableEq, Repr

structure RequestContext where
  userAgent : Option String
  ipAddress : Option String
deriving DecidableEq, Repr

/-- A row of `refresh_tokens`. -/
structure RefreshToken where
  id : Uuid
  userId : Uuid
  tokenHash : String
  familyId : Uuid
  userAgent : Option String
  ipAddress : Option String
  expiresAt : Time
  revokedAt : Option Time
  createdAt : Time
deriving DecidableEq, Repr

instance : Keyed RefreshToken Uuid := ⟨RefreshToken.id⟩

@[simp] lemma RefreshToken.key_eq_id (r : RefreshToken) : Keyed.key r = r.id := rfl

/-- `data: { revokedAt: new Date() }`. -/
def RefreshToken.revoke (now : Time) (r : RefreshToken) : RefreshToken :=
  { r with revokedAt := some now }

lemma RefreshToken.key_revoke (now : Time) (r : RefreshToken) :
    Keyed.key (r.revoke now) = Keyed.key r := rfl

/-- The tables `TokenService` works on. -/
structure TokenDb where
  users : Table User
  refreshTokens : Table RefreshToken

/-- The settings of the service, and the hash of a raw token. -/
structure TokenConfig where
  accessExpiresIn : String
  refreshExpiresIn : String
  hash : RefreshJwt → String

/-- What the outside world contributes to a step. -/
structure TokenEnv where
  now : Time
  jti : Uuid
  exp : Time
  fault : Option PrismaError
  accessFault : Option String
  refreshFault : Option String

/-- What a call of the service can throw. -/
inductive TokenError where
  | unauthorized (message : String)
  | prisma (e : PrismaError)
  | signing (message : String)
deriving DecidableEq, Repr

inductive TokenOutcome where
  | issued (tokens : AuthTokens)
  | rotated (token : RefreshJwt) (tokens : AuthTokens)
  | revoked
  | failed (e : TokenError)
deriving DecidableEq, Repr

/-- Where a call of the service stands. -/
inductive TokenCall where
  | issue (user : AuthenticatedUser) (context : RequestContext) (familyId : Uuid)
  | rotate (token : RefreshJwt) (context : RequestContext)
  | rotateReuse (token : RefreshJwt) (familyId : Uuid)
  | rotateUser (token : RefreshJwt) (context : RequestContext) (stored : RefreshToken)
  | rotateRevoke (token : RefreshJwt) (context : RequestContext) (stored : RefreshToken)
      (user : AuthenticatedUser)
  | rotateIssue (token : RefreshJwt) (context : RequestContext) (user : AuthenticatedUser)
      (familyId : Uuid)
  | revoke (token : RefreshJwt)
  | done (outcome : TokenOutcome)
deriving DecidableEq, Repr

namespace TokenService

/-- The milliseconds of a unit. -/
def unitMs : Char → Option Nat
  | 's' => some 1000
  | 'm' => some (60 * 1000)
  | 'h' => some (60 * 60 * 1000)
  | 'd' => some (24 * 60 * 60 * 1000)
  | _ => none

/-- The last time a `Date` can hold. -/
def maxTime : Time := 8640000000000000

/-- The duration `expiryToDate` reads off a text: digits and one unit, or the default of 7 days. -/
def duration (expiresIn : String) : Nat :=
  match expiresIn.toList.reverse with
  | unit :: digits =>
    match unitMs unit with
    | some ms =>
      if digits ≠ [] ∧ digits.all Char.isDigit then
        Nat.ofDigitChars 10 digits.reverse 0 * ms
      else 7 * 24 * 60 * 60 * 1000
    | none => 7 * 24 * 60 * 60 * 1000
  | [] => 7 * 24 * 60 * 60 * 1000

/-- `expiryToDate`; `none` is the invalid date. -/
def expiryToDate (expiresIn : String) (now : Time) : Option Time :=
  if now + duration expiresIn ≤ maxTime then some (now + duration expiresIn) else none

/-! ### Statements -/

section Statements

variable (cfg : TokenConfig) (env : TokenEnv) (db : TokenDb)

/-- The refresh token `issueTokens` signs. -/
def newToken (user : AuthenticatedUser) (familyId : Uuid) : RefreshJwt :=
  ⟨⟨user.id, env.jti, familyId⟩, env.now, env.exp⟩

/-- The row `issueTokens` creates. -/
def newRow (user : AuthenticatedUser) (context : RequestContext) (familyId : Uuid)
    (expiresAt : Time) : RefreshToken where
  id := env.jti
  userId := user.id
  tokenHash := cfg.hash (newToken env user familyId)
  familyId
  userAgent := context.userAgent
  ipAddress := context.ipAddress
  expiresAt
  revokedAt := none
  createdAt := env.now

/-- `refreshToken.create`: the hash is unique and the user must exist. An invalid date is refused
before the statement. -/
def createRefreshToken (user : AuthenticatedUser) (context : RequestContext) (familyId : Uuid) :
    Except TokenError TokenDb :=
  match expiryToDate cfg.refreshExpiresIn env.now with
  | none => .error (.prisma (.other "Provided Date object is invalid"))
  | some expiresAt =>
    match env.fault with
    | some e => .error (.prisma e)
    | none =>
      let row := newRow cfg env user context familyId expiresAt
      match insertRow db.refreshTokens row
          (db.refreshTokens.rows.any (·.tokenHash = row.tokenHash))
          (db.users.find? row.userId).isSome with
      | .error e => .error (.prisma e)
      | .ok refreshTokens => .ok { db with refreshTokens }

lemma createRefreshToken_eq_ok {cfg : TokenConfig} {env : TokenEnv} {db db' : TokenDb}
    {user : AuthenticatedUser} {context : RequestContext} {familyId : Uuid}
    (h : createRefreshToken cfg env db user context familyId = .ok db') :
    ∃ expiresAt refreshTokens, expiryToDate cfg.refreshExpiresIn env.now = some expiresAt ∧
      (∀ r ∈ db.refreshTokens.rows, r.tokenHash ≠ cfg.hash (newToken env user familyId)) ∧
      (db.users.find? user.id).isSome ∧
      db.refreshTokens.insert? (newRow cfg env user context familyId expiresAt) =
        some refreshTokens ∧
      db' = { db with refreshTokens } := by
  unfold createRefreshToken at h
  split at h
  · cases h
  · next expiresAt hexpires =>
    split at h
    · cases h
    · dsimp only at h
      split at h
      · cases h
      · next refreshTokens hrow =>
        cases h
        obtain ⟨htaken, hlinked, hins⟩ := insertRow_eq_ok.mp hrow
        refine ⟨expiresAt, refreshTokens, hexpires, fun r hr hhash => ?_, hlinked, hins, rfl⟩
        exact List.any_eq_false.mp htaken r hr (decide_eq_true hhash)

/-- `issueTokens`: both signatures and the insertion, with the refresh token signed. -/
def issueTokens (user : AuthenticatedUser) (context : RequestContext) (familyId : Uuid) :
    Except TokenError AuthTokens × TokenDb × List RefreshJwt :=
  match env.accessFault, env.refreshFault with
  | some message, _ => (.error (.signing message), db, [])
  | none, some message => (.error (.signing message), db, [])
  | none, none =>
    let refreshToken := newToken env user familyId
    match createRefreshToken cfg env db user context familyId with
    | .error e => (.error e, db, [refreshToken])
    | .ok db' =>
      (.ok
        { accessToken := ⟨user.id, user.email, user.role, user.organizationId⟩
          refreshToken
          tokenType := "Bearer"
          expiresIn := cfg.accessExpiresIn }, db', [refreshToken])

/-- `updateMany` on the unrevoked tokens of a family. -/
def revokeFamily (familyId : Uuid) : TokenDb :=
  { db with
    refreshTokens := db.refreshTokens.modifyWhere
      (fun r => r.familyId = familyId ∧ r.revokedAt = none) (RefreshToken.revoke env.now)
      (RefreshToken.key_revoke env.now) }

/-- The `updateMany` leaves no row of the family unrevoked. -/
lemma revokedAt_revokeFamily {env : TokenEnv} {db : TokenDb} {familyId : Uuid} {r : RefreshToken}
    (hr : r ∈ (revokeFamily env db familyId).refreshTokens.rows) (hfamily : r.familyId = familyId) :
    r.revokedAt ≠ none := by
  obtain ⟨a, -, rfl⟩ := List.mem_map.mp hr
  split
  · exact fun hnone => by cases hnone
  · next hp =>
    rw [if_neg hp] at hfamily
    intro hnone
    exact hp (decide_eq_true ⟨hfamily, hnone⟩)

end Statements

end TokenService

namespace TokenCall

open TokenService

/-- A call that ends with an error and leaves the tables as they are. -/
def fail (db : TokenDb) (e : TokenError) : TokenDb × List RefreshJwt × TokenCall :=
  (db, [], .done (.failed e))

/-- The next step of a call: the tables, the tokens signed, and where the call goes on. -/
def exec (cfg : TokenConfig) (env : TokenEnv) (db : TokenDb) :
    TokenCall → TokenDb × List RefreshJwt × TokenCall
  | .issue user context familyId =>
    match issueTokens cfg env db user context familyId with
    | (.error e, db', signed) => (db', signed, .done (.failed e))
    | (.ok tokens, db', signed) => (db', signed, .done (.issued tokens))
  | .rotate token context =>
    match env.fault with
    | some e => fail db (.prisma e)
    | none =>
      match db.refreshTokens.find? token.payload.jti with
      | none => fail db (.unauthorized "Invalid refresh token")
      | some stored =>
        if stored.tokenHash ≠ cfg.hash token then
          fail db (.unauthorized "Invalid refresh token")
        else if stored.revokedAt.isSome then (db, [], .rotateReuse token stored.familyId)
        else if stored.expiresAt < env.now then
          fail db (.unauthorized "Refresh token expired")
        else (db, [], .rotateUser token context stored)
  | .rotateReuse _ familyId =>
    match env.fault with
    | some e => fail db (.prisma e)
    | none =>
      (revokeFamily env db familyId, [],
        .done (.failed (.unauthorized "Refresh token reuse detected")))
  | .rotateUser token context stored =>
    match env.fault with
    | some e => fail db (.prisma e)
    | none =>
      match db.users.find? stored.userId with
      | none => fail db (.unauthorized "User is no longer active")
      | some user =>
        if user.isActive then
          (db, [], .rotateRevoke token context stored
            ⟨user.id, user.email, user.role, user.organizationId⟩)
        else fail db (.unauthorized "User is no longer active")
  | .rotateRevoke token context stored user =>
    match env.fault with
    | some e => fail db (.prisma e)
    | none =>
      match updateRow db.refreshTokens stored.id (RefreshToken.revoke env.now)
          (RefreshToken.key_revoke env.now) false true with
      | .error e => fail db (.prisma e)
      | .ok (_, refreshTokens) =>
        ({ db with refreshTokens }, [], .rotateIssue token context user stored.familyId)
  | .rotateIssue token context user familyId =>
    match issueTokens cfg env db user context familyId with
    | (.error e, db', signed) => (db', signed, .done (.failed e))
    | (.ok tokens, db', signed) => (db', signed, .done (.rotated token tokens))
  | .revoke token =>
    match env.fault with
    | some e => fail db (.prisma e)
    | none => (revokeFamily env db token.payload.familyId, [], .done .revoked)
  | .done outcome => (db, [], .done outcome)

/-! ### What a step can do -/

/-- A row has been inserted for a new token of the family. -/
def Creates (cfg : TokenConfig) (env : TokenEnv) (db : TokenDb) (user : AuthenticatedUser)
    (context : RequestContext) (familyId : Uuid) (db' : TokenDb) : Prop :=
  ∃ expiresAt refreshTokens,
    (∀ r ∈ db.refreshTokens.rows, r.tokenHash ≠ cfg.hash (newToken env user familyId)) ∧
      (db.users.find? user.id).isSome ∧
      db.refreshTokens.insert? (newRow cfg env user context familyId expiresAt) =
        some refreshTokens ∧
      db' = { db with refreshTokens }

/-- All that a step of a call can do. -/
inductive Executes (cfg : TokenConfig) (env : TokenEnv) (db : TokenDb) :
    TokenCall → TokenDb → List RefreshJwt → TokenCall → Prop
  | failed {call e} : Executes cfg env db call db [] (.done (.failed e))
  | finished {outcome} : Executes cfg env db (.done outcome) db [] (.done outcome)
  | issueFailed {user context familyId e} :
    Executes cfg env db (.issue user context familyId) db [newToken env user familyId]
      (.done (.failed e))
  | issued {user context familyId tokens db'}
    (h : Creates cfg env db user context familyId db') :
    Executes cfg env db (.issue user context familyId) db' [newToken env user familyId]
      (.done (.issued tokens))
  | reused {token context stored}
    (hfind : db.refreshTokens.find? token.payload.jti = some stored)
    (hhash : stored.tokenHash = cfg.hash token) (hrevoked : stored.revokedAt ≠ none) :
    Executes cfg env db (.rotate token context) db [] (.rotateReuse token stored.familyId)
  | found {token context stored}
    (hfind : db.refreshTokens.find? token.payload.jti = some stored)
    (hhash : stored.tokenHash = cfg.hash token) (hrevoked : stored.revokedAt = none)
    (hexpires : env.now ≤ stored.expiresAt) :
    Executes cfg env db (.rotate token context) db [] (.rotateUser token context stored)
  | detected {token familyId e} :
    Executes cfg env db (.rotateReuse token familyId) (revokeFamily env db familyId) []
      (.done (.failed e))
  | active {token context stored user}
    (hfind : db.users.find? stored.userId = some user) (hactive : user.isActive) :
    Executes cfg env db (.rotateUser token context stored) db []
      (.rotateRevoke token context stored ⟨user.id, user.email, user.role, user.organizationId⟩)
  | superseded {token context stored user row} (hfault : env.fault = none)
    (hfind : db.refreshTokens.find? stored.id = some row) :
    Executes cfg env db (.rotateRevoke token context stored user)
      { db with
        refreshTokens := db.refreshTokens.modify stored.id (RefreshToken.revoke env.now)
          (RefreshToken.key_revoke env.now) } []
      (.rotateIssue token context user stored.familyId)
  | rotateFailed {token context user familyId e} :
    Executes cfg env db (.rotateIssue token context user familyId) db
      [newToken env user familyId] (.done (.failed e))
  | rotated {token context user familyId tokens db'}
    (h : Creates cfg env db user context familyId db') :
    Executes cfg env db (.rotateIssue token context user familyId) db'
      [newToken env user familyId] (.done (.rotated token tokens))
  | revoked {token} :
    Executes cfg env db (.revoke token) (revokeFamily env db token.payload.familyId) []
      (.done .revoked)

/-- The ways `issueTokens` can go. -/
lemma issueTokens_cases (cfg : TokenConfig) (env : TokenEnv) (db : TokenDb)
    (user : AuthenticatedUser) (context : RequestContext) (familyId : Uuid) :
    (∃ e, issueTokens cfg env db user context familyId = (.error e, db, [])) ∨
    (∃ e, issueTokens cfg env db user context familyId =
      (.error e, db, [newToken env user familyId])) ∨
    ∃ tokens db', issueTokens cfg env db user context familyId =
        (.ok tokens, db', [newToken env user familyId]) ∧
      Creates cfg env db user context familyId db' := by
  unfold issueTokens
  split
  · exact .inl ⟨_, rfl⟩
  · exact .inl ⟨_, rfl⟩
  · cases hcreate : createRefreshToken cfg env db user context familyId with
    | error e => exact .inr (.inl ⟨e, rfl⟩)
    | ok db' =>
      obtain ⟨expiresAt, refreshTokens, -, hrow⟩ := createRefreshToken_eq_ok hcreate
      exact .inr (.inr ⟨_, db', rfl, expiresAt, refreshTokens, hrow⟩)

theorem exec_cases {cfg : TokenConfig} {env : TokenEnv} {db db' : TokenDb} {call call' : TokenCall}
    {signed : List RefreshJwt} (h : call.exec cfg env db = (db', signed, call')) :
    Executes cfg env db call db' signed call' := by
  cases call with
  | issue user context familyId =>
    rw [exec] at h
    rcases issueTokens_cases cfg env db user context familyId with
      ⟨e, he⟩ | ⟨e, he⟩ | ⟨tokens, db₁, he, hcreates⟩
    · rw [he] at h
      cases h
      exact .failed
    · rw [he] at h
      cases h
      exact .issueFailed
    · rw [he] at h
      cases h
      exact .issued hcreates
  | rotate token context =>
    rw [exec] at h
    split at h
    · cases h
      exact .failed
    · split at h
      · cases h
        exact .failed
      · next stored hfind =>
        split_ifs at h with hhash hrevoked hexpires
        · cases h
          exact .failed
        · cases h
          exact .reused hfind (not_not.mp hhash) (Option.isSome_iff_ne_none.mp hrevoked)
        · cases h
          exact .failed
        · cases h
          exact .found hfind (not_not.mp hhash) (by simpa using hrevoked) (not_lt.mp hexpires)
  | rotateReuse token familyId =>
    rw [exec] at h
    split at h <;> cases h
    · exact .failed
    · exact .detected
  | rotateUser token context stored =>
    rw [exec] at h
    split at h
    · cases h
      exact .failed
    · split at h
      · cases h
        exact .failed
      · next user hfind =>
        split_ifs at h with hactive
        · cases h
          exact .active hfind hactive
        · cases h
          exact .failed
  | rotateRevoke token context stored user =>
    rw [exec] at h
    split at h
    · cases h
      exact .failed
    · next hfault =>
      split at h
      · cases h
        exact .failed
      · next hrow =>
        cases h
        obtain ⟨-, -, rfl, row, hfind, -⟩ := updateRow_eq_ok.mp hrow
        exact .superseded hfault hfind
  | rotateIssue token context user familyId =>
    rw [exec] at h
    rcases issueTokens_cases cfg env db user context familyId with
      ⟨e, he⟩ | ⟨e, he⟩ | ⟨tokens, db₁, he, hcreates⟩
    · rw [he] at h
      cases h
      exact .failed
    · rw [he] at h
      cases h
      exact .rotateFailed
    · rw [he] at h
      cases h
      exact .rotated hcreates
  | revoke token =>
    rw [exec] at h
    split at h <;> cases h
    · exact .failed
    · exact .revoked
  | done outcome =>
    cases h
    exact .finished

end TokenCall

end SupportPlatform
