import SupportPlatform.Auth.Lifetime

/-!
# A rotation that fails

`rotate` revokes the presented token and issues a new one in two statements that no transaction
holds together. A client whose rotation fails between them has no token left: the one it presented
is revoked, and presenting it again counts as reuse.
-/

namespace SupportPlatform

/-- The environments of the statements of one `rotate`. -/
structure RotateEnv where
  findToken : TokenEnv
  findUser : TokenEnv
  update : TokenEnv
  create : TokenEnv

namespace RotateEnv

/-- No statement up to the one that revokes the presented token fails. -/
def revokes (envs : RotateEnv) : Bool :=
  envs.findToken.fault.isNone && envs.findUser.fault.isNone && envs.update.fault.isNone

/-- Neither a signature of the new tokens fails nor the insertion of the new row: the database
answers, the expiry is a date, and the id and the hash are new. -/
def issues (cfg : TokenConfig) (envs : RotateEnv) (db : TokenDb) (stored : RefreshToken) : Bool :=
  envs.create.accessFault.isNone && envs.create.refreshFault.isNone &&
    envs.create.fault.isNone &&
    (TokenService.expiryToDate cfg.refreshExpiresIn envs.create.now).isSome &&
    decide (envs.create.jti ∉ db.refreshTokens.keys) &&
    !db.refreshTokens.rows.any (·.tokenHash = cfg.hash
      ⟨⟨stored.userId, envs.create.jti, stored.familyId⟩, envs.create.now, envs.create.exp⟩)

end RotateEnv

namespace TokenService

open TokenCall

/-- One statement of a call after another, with nothing in between. -/
def runCall (cfg : TokenConfig) : List TokenEnv → TokenDb → TokenCall → TokenDb × TokenCall
  | [], db, call => (db, call)
  | env :: envs, db, call =>
    runCall cfg envs (call.exec cfg env db).1 (call.exec cfg env db).2.2

/-- `rotate` for a token that verifies. -/
def rotate (cfg : TokenConfig) (envs : RotateEnv) (db : TokenDb) (token : RefreshJwt)
    (context : RequestContext) : TokenDb × TokenCall :=
  runCall cfg [envs.findToken, envs.findUser, envs.update, envs.create] db (.rotate token context)

/-- The row of an unrevoked, unexpired token, and the active user it belongs to. -/
structure Rotatable (cfg : TokenConfig) (db : TokenDb) (token : RefreshJwt) (now : Time)
    (stored : RefreshToken) (user : User) : Prop where
  found : db.refreshTokens.find? token.payload.jti = some stored
  hash : stored.tokenHash = cfg.hash token
  unrevoked : stored.revokedAt = none
  unexpired : now ≤ stored.expiresAt
  owner : db.users.find? stored.userId = some user
  active : user.isActive

/-- When `rotate` throws, the table of the tokens is the one before, and presenting the token again
is no reuse. -/
def RotateAtomic (cfg : TokenConfig) (envs : RotateEnv) (db : TokenDb) (token : RefreshJwt)
    (context : RequestContext) : Prop :=
  ∀ e, (rotate cfg envs db token context).2 = .done (.failed e) →
    (rotate cfg envs db token context).1.refreshTokens = db.refreshTokens ∧
      ∀ env' context' familyId,
        ((TokenCall.rotate token context').exec cfg env' (rotate cfg envs db token context).1).2.2 ≠
          .rotateReuse token familyId

section

variable {cfg : TokenConfig} {envs : RotateEnv} {db : TokenDb} {token : RefreshJwt}
  {context : RequestContext} {stored : RefreshToken} {user : User} {now : Time}

/-! ### One statement after another -/

/-- The table of the tokens with the presented one revoked. -/
def superseded (envs : RotateEnv) (db : TokenDb) (stored : RefreshToken) : TokenDb :=
  { db with
    refreshTokens := db.refreshTokens.modify stored.id (RefreshToken.revoke envs.update.now)
      (RefreshToken.key_revoke envs.update.now) }

/-- A statement that fails before the update leaves everything as it was. -/
lemma rotate_of_not_revokes (h : Rotatable cfg db token envs.findToken.now stored user)
    (hrevokes : envs.revokes = false) (context : RequestContext) :
    (rotate cfg envs db token context).1 = db := by
  have hunexpired := not_lt.mpr h.unexpired
  cases hfind : envs.findToken.fault with
  | some e => simp [rotate, runCall, exec, hfind, fail]
  | none =>
    cases huser : envs.findUser.fault with
    | some e =>
      simp [rotate, runCall, exec, hfind, huser, h.found, h.hash, h.unrevoked, hunexpired, fail]
    | none =>
      cases hupdate : envs.update.fault with
      | some e =>
        simp [rotate, runCall, exec, hfind, huser, hupdate, h.found, h.hash, h.unrevoked,
          hunexpired, h.owner, h.active, fail]
      | none => simp [RotateEnv.revokes, hfind, huser, hupdate] at hrevokes

/-- What is left to do when the presented token has been revoked. -/
lemma rotate_of_revokes (h : Rotatable cfg db token envs.findToken.now stored user)
    (hrevokes : envs.revokes) (context : RequestContext) :
    rotate cfg envs db token context =
      runCall cfg [envs.create] (superseded envs db stored)
        (.rotateIssue token context ⟨user.id, user.email, user.role, user.organizationId⟩
          stored.familyId) := by
  have hunexpired := not_lt.mpr h.unexpired
  obtain ⟨⟨hfind, huser⟩, hupdate⟩ : (envs.findToken.fault = none ∧ envs.findUser.fault = none) ∧
      envs.update.fault = none := by simpa [RotateEnv.revokes] using hrevokes
  have hid : stored.id = token.payload.jti := (Table.find?_eq_some.mp h.found).2
  simp [rotate, runCall, exec, hfind, huser, hupdate, h.found, h.hash, h.unrevoked, hunexpired,
    h.owner, h.active, updateRow, hid, superseded]

/-- The hashes and the keys of the table do not change when a token is revoked. -/
lemma createRefreshToken_superseded (cfg : TokenConfig) (context : RequestContext)
    {authUser : AuthenticatedUser} (hid : authUser.id = stored.userId)
    (howner : (db.users.find? stored.userId).isSome)
    (haccess : envs.create.accessFault = none) (hrefresh : envs.create.refreshFault = none) :
    (createRefreshToken cfg envs.create (superseded envs db stored) authUser context
      stored.familyId).isOk = envs.issues cfg db stored := by
  have hhashes : ∀ k, (superseded envs db stored).refreshTokens.rows.any (·.tokenHash = k) =
      db.refreshTokens.rows.any (·.tokenHash = k) := by
    intro k
    simp only [superseded, Table.modify, Table.rows_modifyWhere, List.any_map]
    congr 1
    funext r
    simp only [Function.comp]
    split <;> rfl
  have hkeys : (superseded envs db stored).refreshTokens.keys = db.refreshTokens.keys :=
    Table.keys_modifyWhere _ _ _ (RefreshToken.key_revoke envs.update.now)
  simp only [createRefreshToken, RotateEnv.issues, haccess, hrefresh, Option.isNone_none,
    Bool.true_and]
  cases expiryToDate cfg.refreshExpiresIn envs.create.now with
  | none => simp [Except.isOk, Except.toBool]
  | some expiresAt =>
    cases envs.create.fault with
    | some e => simp [Except.isOk, Except.toBool]
    | none =>
      simp only [newRow, newToken, hid, insertRow, hhashes]
      have howner' : ((superseded envs db stored).users.find? stored.userId).isSome := howner
      by_cases htaken : db.refreshTokens.rows.any (·.tokenHash = cfg.hash
        ⟨⟨stored.userId, envs.create.jti, stored.familyId⟩, envs.create.now, envs.create.exp⟩)
      · simp [htaken, Except.isOk, Except.toBool]
      · by_cases hfree : envs.create.jti ∈ db.refreshTokens.keys
        · simp [htaken, howner', Table.insert?, hkeys, hfree, Except.isOk, Except.toBool]
        · simp [htaken, howner', Table.insert?, hkeys, hfree, Except.isOk, Except.toBool]

/-- `issueTokens` after the update throws exactly when a signature or the insertion fails, and the
tables stay as the update has left them. -/
lemma issueTokens_superseded (cfg : TokenConfig) (envs : RotateEnv) (context : RequestContext)
    {authUser : AuthenticatedUser} (hid : authUser.id = stored.userId)
    (howner : (db.users.find? stored.userId).isSome) :
    (envs.issues cfg db stored ∧ ∃ tokens db' signed,
      issueTokens cfg envs.create (superseded envs db stored) authUser context stored.familyId =
        (.ok tokens, db', signed)) ∨
    (envs.issues cfg db stored = false ∧ ∃ e signed,
      issueTokens cfg envs.create (superseded envs db stored) authUser context stored.familyId =
        (.error e, superseded envs db stored, signed)) := by
  cases haccess : envs.create.accessFault with
  | some message =>
    exact .inr ⟨by simp [RotateEnv.issues, haccess], .signing message, [],
      by simp [issueTokens, haccess]⟩
  | none =>
    cases hrefresh : envs.create.refreshFault with
    | some message =>
      exact .inr ⟨by simp [RotateEnv.issues, hrefresh], .signing message, [],
        by simp [issueTokens, haccess, hrefresh]⟩
    | none =>
      have hcreate := createRefreshToken_superseded cfg context hid howner haccess hrefresh
      cases hrow : createRefreshToken cfg envs.create (superseded envs db stored) authUser context
        stored.familyId with
      | error e =>
        rw [hrow] at hcreate
        exact .inr ⟨hcreate.symm, e, [newToken envs.create authUser stored.familyId],
          by simp [issueTokens, haccess, hrefresh, hrow]⟩
      | ok db' =>
        rw [hrow] at hcreate
        have hissue : issueTokens cfg envs.create (superseded envs db stored) authUser context
            stored.familyId =
              (.ok ⟨⟨authUser.id, authUser.email, authUser.role, authUser.organizationId⟩,
                newToken envs.create authUser stored.familyId, "Bearer", cfg.accessExpiresIn⟩,
                db', [newToken envs.create authUser stored.familyId]) := by
          simp [issueTokens, haccess, hrefresh, hrow]
        exact .inl ⟨hcreate.symm, _, _, _, hissue⟩

/-! ### The call as a whole -/

lemma Rotatable.find_superseded (h : Rotatable cfg db token now stored user)
    (envs : RotateEnv) :
    (superseded envs db stored).refreshTokens.find? token.payload.jti =
      some (stored.revoke envs.update.now) := by
  have hid : stored.id = token.payload.jti := (Table.find?_eq_some.mp h.found).2
  simp [superseded, Table.find?_modify, hid, h.found]

/-- A token whose row is unrevoked is not reused. -/
lemma Rotatable.not_reuse (h : Rotatable cfg db token now stored user) (env : TokenEnv)
    (context : RequestContext) (familyId : Uuid) :
    ((TokenCall.rotate token context).exec cfg env db).2.2 ≠ .rotateReuse token familyId := by
  cases hfault : env.fault with
  | some e => simp [exec, hfault, fail]
  | none =>
    simp only [exec, hfault, h.found, h.hash, h.unrevoked]
    split_ifs <;> simp_all [fail]

/-- The next call with a token that was revoked in vain detects a reuse. -/
lemma Rotatable.reuse (h : Rotatable cfg db token now stored user) {env : TokenEnv}
    (hfault : env.fault = none) (context : RequestContext) :
    (TokenCall.rotate token context).exec cfg env (superseded envs db stored) =
      (superseded envs db stored, [], .rotateReuse token stored.familyId) := by
  simp [exec, hfault, h.find_superseded, RefreshToken.revoke, h.hash]

/-- A valid token of an active user survives a rotation that throws if and only if the failure is
not one of the signatures or of the insertion after the update that revokes the token. After such a
failure the next call with the token that reaches its row detects a reuse. -/
theorem rotateAtomic_iff (h : Rotatable cfg db token envs.findToken.now stored user) :
    (RotateAtomic cfg envs db token context ↔ (envs.revokes → envs.issues cfg db stored)) ∧
      (¬ RotateAtomic cfg envs db token context → ∀ env context', env.fault = none →
        ((TokenCall.rotate token context').exec cfg env
          (rotate cfg envs db token context).1).2.2 = .rotateReuse token stored.familyId) := by
  by_cases hrevokes : envs.revokes
  · have hrotate := rotate_of_revokes h hrevokes context
    have howner : (db.users.find? stored.userId).isSome := by simp [h.owner]
    have hid : user.id = stored.userId := (Table.find?_eq_some.mp h.owner).2
    have hauth : (⟨user.id, user.email, user.role, user.organizationId⟩ : AuthenticatedUser).id =
      stored.userId := hid
    rcases issueTokens_superseded cfg envs context hauth howner with
      ⟨hissues, tokens, db', signed, hissue⟩ | ⟨hissues, e, signed, hissue⟩
    · have hatomic : RotateAtomic cfg envs db token context := by
        intro e he
        simp [hrotate, runCall, exec, hissue] at he
      exact ⟨iff_of_true hatomic fun _ => hissues, fun hnot => absurd hatomic hnot⟩
    · have hdone : rotate cfg envs db token context =
          (superseded envs db stored, .done (.failed e)) := by
        simp [hrotate, runCall, exec, hissue]
      have hreuse : ∀ env context', env.fault = none →
          ((TokenCall.rotate token context').exec cfg env
            (rotate cfg envs db token context).1).2.2 = .rotateReuse token stored.familyId := by
        intro env context' hfault
        rw [hdone, h.reuse hfault]
      refine ⟨iff_of_false (fun hatomic => ?_) fun himp => ?_, fun _ => hreuse⟩
      · have hsame := (hatomic e (by rw [hdone])).1
        have hfind := h.find_superseded envs
        rw [hdone] at hsame
        rw [hsame, h.found] at hfind
        have hrevoked := congrArg RefreshToken.revokedAt (Option.some.inj hfind)
        rw [h.unrevoked] at hrevoked
        cases hrevoked
      · rw [hissues] at himp
        exact absurd (himp hrevokes) (by simp)
  · have hsame := rotate_of_not_revokes h (Bool.not_eq_true _ ▸ hrevokes) context
    have hatomic : RotateAtomic cfg envs db token context := by
      intro e he
      rw [hsame]
      exact ⟨rfl, h.not_reuse⟩
    exact ⟨iff_of_true hatomic fun hr => absurd hr hrevokes, fun hnot => absurd hatomic hnot⟩

end

end TokenService

/-! ### A row that cannot be inserted -/

namespace Seed

/-- The row of the token of the customer. -/
def storedToken : RefreshToken :=
  ⟨1001, 13, tokenConfig.hash (token 1), 900, none, none, 604801, none, 1⟩

/-- The customer is logged in. -/
def loggedInDb : TokenDb := ⟨users, ⟨[storedToken], [], by decide⟩⟩

/-- The connection to the database is lost between the update and the insertion. -/
def disconnected : RotateEnv :=
  ⟨tokenEnv 2, tokenEnv 3, tokenEnv 4,
    { tokenEnv 5 with fault := some (.other "Connection lost") }⟩

lemma rotatable : TokenService.Rotatable tokenConfig loggedInDb (token 1) 2 storedToken customer :=
  ⟨by decide, rfl, rfl, by decide, by decide, rfl⟩

end Seed

namespace TokenService

theorem rotateAtomic_iff_disconnected :
    (RotateAtomic Seed.tokenConfig Seed.disconnected Seed.loggedInDb (Seed.token 1) Seed.context ↔
      (Seed.disconnected.revokes →
        Seed.disconnected.issues Seed.tokenConfig Seed.loggedInDb Seed.storedToken)) ∧
      (¬ RotateAtomic Seed.tokenConfig Seed.disconnected Seed.loggedInDb (Seed.token 1)
          Seed.context →
        ∀ env context', env.fault = none →
          ((TokenCall.rotate (Seed.token 1) context').exec Seed.tokenConfig env
            (rotate Seed.tokenConfig Seed.disconnected Seed.loggedInDb (Seed.token 1)
              Seed.context).1).2.2 = .rotateReuse (Seed.token 1) 900) :=
  rotateAtomic_iff Seed.rotatable

/-- A rotation whose new row cannot be inserted leaves the client without a token. -/
theorem not_rotateAtomic_disconnected :
    ¬ ∀ cfg envs db token context stored user,
      Rotatable cfg db token envs.findToken.now stored user →
        RotateAtomic cfg envs db token context := by
  intro hall
  have hatomic := hall _ Seed.disconnected _ _ Seed.context _ _ Seed.rotatable
  have hthrows : (rotate Seed.tokenConfig Seed.disconnected Seed.loggedInDb (Seed.token 1)
      Seed.context).2 = .done (.failed (.prisma (.other "Connection lost"))) := by decide
  have hsame := (hatomic _ hthrows).1
  have hrows := congrArg Table.rows hsame
  revert hrows
  decide

end TokenService

end SupportPlatform
