import SupportPlatform.Auth.Ownership

/-!
# Life of a token family

Calls that run one at a time, each to its end and without internal failure. A family then has one
unrevoked row from its login on, which a rotation replaces by another, until a logout or the
presentation of a revoked token ends it.
-/

namespace SupportPlatform

/-- A whole call, with the environments of its statements, or something done to the users. -/
inductive ServedEvent where
  | issueTokens (user : AuthenticatedUser) (context : RequestContext) (familyId : Uuid)
      (create : TokenEnv)
  | rotate (token : RefreshJwt) (context : RequestContext) (now : Time)
      (findToken findUser update create : TokenEnv)
  | revoke (token : RefreshJwt) (now : Time) (updateMany : TokenEnv)
  | userCreated (user : User)
  | userUpdated (id : Uuid) (isActive : Bool)

/-- The steps of the `i`-th call. A call that has ended early idles through the rest of them. -/
def ServedEvent.statements (i : Nat) : ServedEvent → List SessionEvent
  | .issueTokens user context familyId create =>
    [.issue user context familyId, .proceed i create]
  | .rotate token context now findToken findUser update create =>
    [.rotate token context now, .proceed i findToken, .proceed i findUser, .proceed i update,
      .proceed i create]
  | .revoke token now updateMany => [.revoke token now, .proceed i updateMany]
  | .userCreated user => [.userCreated user]
  | .userUpdated id isActive => [.userUpdated id isActive]

/-- The family of the token that a call is given, or that a login opens. -/
def ServedEvent.family? : ServedEvent → Option Uuid
  | .issueTokens _ _ familyId _ => some familyId
  | .rotate token _ _ _ _ _ _ | .revoke token _ _ => some token.payload.familyId
  | .userCreated _ | .userUpdated _ _ => none

/-- An error that is not an answer to the token that was presented. -/
def TokenError.isInternal : TokenError → Bool
  | .unauthorized _ => false
  | .prisma _ | .signing _ => true

def TokenCall.failedInternally : TokenCall → Bool
  | .done (.failed e) => e.isInternal
  | _ => false

/-! ### One statement that does not fail -/

namespace TokenCall

open TokenService

section Statements

variable {cfg : TokenConfig} {env : TokenEnv} {db : TokenDb} {user : AuthenticatedUser}
  {context : RequestContext} {familyId : Uuid} {token : RefreshJwt} {stored : RefreshToken}

/-- `createRefreshToken` fails for internal reasons only. -/
lemma isInternal_of_createRefreshToken {e : TokenError}
    (h : createRefreshToken cfg env db user context familyId = .error e) : e.isInternal := by
  unfold createRefreshToken at h
  split at h
  · cases h
    rfl
  · split at h
    · cases h
      rfl
    · dsimp only at h
      split at h
      · cases h
        rfl
      · cases h

/-- `issueTokens` fails for internal reasons, or creates the row of the new token. -/
lemma issueTokens_internal (cfg : TokenConfig) (env : TokenEnv) (db : TokenDb)
    (user : AuthenticatedUser) (context : RequestContext) (familyId : Uuid) :
    (∃ e db' new, issueTokens cfg env db user context familyId = (.error e, db', new) ∧
      e.isInternal) ∨
    ∃ tokens db', issueTokens cfg env db user context familyId =
        (.ok tokens, db', [newToken env user familyId]) ∧
      Creates cfg env db user context familyId db' := by
  rcases issueTokens_cases cfg env db user context familyId with ⟨e, he⟩ | ⟨e, he⟩ | hok
  · refine .inl ⟨e, _, _, he, ?_⟩
    unfold issueTokens at he
    split at he
    · cases he
      rfl
    · cases he
      rfl
    · split at he <;> cases he
  · refine .inl ⟨e, _, _, he, ?_⟩
    unfold issueTokens at he
    split at he
    · cases he
    · cases he
    · split at he
      · next hcreate =>
        cases he
        exact isInternal_of_createRefreshToken hcreate
      · cases he
  · exact .inr hok

lemma exec_issue
    (h : ((issue user context familyId).exec cfg env db).2.2.failedInternally = false) :
    ∃ tokens db', (issue user context familyId).exec cfg env db =
        (db', [newToken env user familyId], .done (.issued tokens)) ∧
      Creates cfg env db user context familyId db' := by
  rw [exec] at h ⊢
  rcases issueTokens_internal cfg env db user context familyId with
    ⟨e, db', new, he, hinternal⟩ | ⟨tokens, db', hok, hcreates⟩
  · rw [he] at h
    exact absurd hinternal (Bool.not_eq_true _ ▸ h)
  · rw [hok]
    exact ⟨tokens, db', rfl, hcreates⟩

lemma exec_rotateIssue
    (h : ((rotateIssue token context user familyId).exec cfg env db).2.2.failedInternally = false) :
    ∃ tokens db', (rotateIssue token context user familyId).exec cfg env db =
        (db', [newToken env user familyId], .done (.rotated token tokens)) ∧
      Creates cfg env db user context familyId db' := by
  rw [exec] at h ⊢
  rcases issueTokens_internal cfg env db user context familyId with
    ⟨e, db', new, he, hinternal⟩ | ⟨tokens, db', hok, hcreates⟩
  · rw [he] at h
    exact absurd hinternal (Bool.not_eq_true _ ▸ h)
  · rw [hok]
    exact ⟨tokens, db', rfl, hcreates⟩

/-- The token has a row with its hash that is revoked. -/
def reused (cfg : TokenConfig) (db : TokenDb) (token : RefreshJwt) : Bool :=
  (db.refreshTokens.find? token.payload.jti).any fun stored =>
    stored.tokenHash = cfg.hash token && stored.revokedAt.isSome

/-- The first statement of `rotate` refuses the token, detects its reuse, or goes on with its
unrevoked row. -/
lemma exec_rotate (h : ((rotate token context).exec cfg env db).2.2.failedInternally = false) :
    (reused cfg db token = false ∧
      ∃ e, (rotate token context).exec cfg env db = (db, [], .done (.failed e))) ∨
    (reused cfg db token ∧ ∃ stored, db.refreshTokens.find? token.payload.jti = some stored ∧
      (rotate token context).exec cfg env db = (db, [], .rotateReuse token stored.familyId)) ∨
    (reused cfg db token = false ∧
      ∃ stored, db.refreshTokens.find? token.payload.jti = some stored ∧ stored.revokedAt = none ∧
        (rotate token context).exec cfg env db = (db, [], .rotateUser token context stored)) := by
  rw [exec] at h ⊢
  cases hfault : env.fault with
  | some e =>
    rw [hfault] at h
    cases h
  | none =>
    dsimp only
    cases hfind : db.refreshTokens.find? token.payload.jti with
    | none => exact .inl ⟨by simp [reused, hfind], _, rfl⟩
    | some stored =>
      dsimp only
      split_ifs with hhash hrevoked hexpires
      · exact .inl ⟨by simp [reused, hfind, hhash], _, rfl⟩
      · refine .inr (.inl ⟨?_, stored, rfl, rfl⟩)
        simp [reused, hfind, not_not.mp hhash, hrevoked]
      · exact .inl ⟨by simp [reused, hfind, hrevoked], _, rfl⟩
      · refine .inr (.inr ⟨by simp [reused, hfind, hrevoked], stored, rfl, ?_, rfl⟩)
        simpa using hrevoked

lemma exec_rotateReuse
    (h : ((rotateReuse token familyId).exec cfg env db).2.2.failedInternally = false) :
    ∃ e, (rotateReuse token familyId).exec cfg env db =
      (revokeFamily env db familyId, [], .done (.failed e)) := by
  rw [exec] at h ⊢
  cases hfault : env.fault with
  | some e =>
    rw [hfault] at h
    cases h
  | none => exact ⟨_, rfl⟩

lemma exec_rotateUser
    (h : ((rotateUser token context stored).exec cfg env db).2.2.failedInternally = false) :
    (∃ e, (rotateUser token context stored).exec cfg env db = (db, [], .done (.failed e))) ∨
    ∃ user : AuthenticatedUser, (rotateUser token context stored).exec cfg env db =
      (db, [], .rotateRevoke token context stored user) := by
  rw [exec] at h ⊢
  cases hfault : env.fault with
  | some e =>
    rw [hfault] at h
    cases h
  | none =>
    dsimp only
    cases hfind : db.users.find? stored.userId with
    | none => exact .inl ⟨_, rfl⟩
    | some user =>
      dsimp only
      split_ifs
      · exact .inr ⟨_, rfl⟩
      · exact .inl ⟨_, rfl⟩

lemma exec_rotateRevoke
    (h : ((rotateRevoke token context stored user).exec cfg env db).2.2.failedInternally = false) :
    (rotateRevoke token context stored user).exec cfg env db =
      ({ db with
        refreshTokens := db.refreshTokens.modify stored.id (RefreshToken.revoke env.now)
          (RefreshToken.key_revoke env.now) }, [],
        .rotateIssue token context user stored.familyId) := by
  rw [exec] at h ⊢
  cases hfault : env.fault with
  | some e =>
    rw [hfault] at h
    cases h
  | none =>
    rw [hfault] at h
    dsimp only at h ⊢
    split at h
    · cases h
    · next hrow =>
      obtain ⟨-, -, rfl, -⟩ := updateRow_eq_ok.mp hrow
      rfl

lemma exec_revoke (h : ((revoke token).exec cfg env db).2.2.failedInternally = false) :
    (revoke token).exec cfg env db =
      (revokeFamily env db token.payload.familyId, [], .done .revoked) := by
  rw [exec] at h ⊢
  cases hfault : env.fault with
  | some e =>
    rw [hfault] at h
    cases h
  | none => rfl

end Statements

end TokenCall

namespace Sessions

open Machine TokenService

/-- A whole call that does not fail internally. -/
def serve (cfg : TokenConfig) (s : Sessions) (e : ServedEvent) : Option Sessions :=
  (exec (step cfg) s (e.statements s.calls.length)).filter fun s' =>
    s'.calls.all fun c => !c.failedInternally

/-- The family that a call ends: by a logout, or by presenting a revoked token to `rotate`. -/
def ends? (cfg : TokenConfig) (s : Sessions) : ServedEvent → Option Uuid
  | .rotate token _ now _ _ _ _ =>
    if s.verifies token now && TokenCall.reused cfg s.db token then some token.payload.familyId
    else none
  | .revoke token now _ => if s.verifies token now then some token.payload.familyId else none
  | .issueTokens _ _ _ _ | .userCreated _ | .userUpdated _ _ => none

/-- The families that the calls of a run have ended. -/
def ended (cfg : TokenConfig) (s : Sessions) (es : List ServedEvent) : List Uuid :=
  collect (serve cfg) (fun s e _ => (s.ends? cfg e).toList) s es

variable {cfg : TokenConfig} {s s' : Sessions} {e : ServedEvent}

/-! ### What a call can do -/

/-- The next statement of the last call. -/
lemma proceed_last {calls : List TokenCall} {call : TokenCall} {env : TokenEnv}
    (hcalls : s.calls = calls ++ [call]) (h : step cfg s (.proceed calls.length env) = some s') :
    s'.db = (call.exec cfg env s.db).1 ∧ s'.families = s.families ∧
      s'.calls = calls ++ [(call.exec cfg env s.db).2.2] := by
  obtain ⟨call', hcall, h⟩ := Option.bind_eq_some_iff.mp h
  rw [hcalls, List.getElem?_concat_length] at hcall
  cases hcall
  have hset : ∀ c, s.calls.set calls.length c = calls ++ [c] := fun c => by simp [hcalls]
  split_ifs at h
  cases h
  exact ⟨rfl, rfl, hset _⟩

/-- A call that is over idles. -/
lemma idle {calls : List TokenCall} {outcome : TokenOutcome} (envs : List TokenEnv)
    (hcalls : s.calls = calls ++ [.done outcome])
    (h : exec (step cfg) s (envs.map (.proceed calls.length)) = some s') :
    s'.db = s.db ∧ s'.families = s.families ∧ s'.calls = calls ++ [.done outcome] := by
  induction envs generalizing s with
  | nil =>
    cases h
    exact ⟨rfl, rfl, hcalls⟩
  | cons env envs ih =>
    obtain ⟨t, ht, hs'⟩ := (exec_cons_eq_some _).mp h
    obtain ⟨hdb, hfamilies, hdone⟩ := proceed_last hcalls ht
    obtain ⟨hdb', hfamilies', hdone'⟩ := ih hdone hs'
    exact ⟨hdb'.trans hdb, hfamilies'.trans hfamilies, hdone'⟩

/-- A call does not get past an internal failure. -/
lemma clean_of_clean {calls : List TokenCall} {call : TokenCall} (cfg : TokenConfig)
    (envs : List TokenEnv) (hcalls : s.calls = calls ++ [call])
    (h : exec (step cfg) s (envs.map (.proceed calls.length)) = some s')
    (hclean : s'.calls.all fun c => !c.failedInternally) : call.failedInternally = false := by
  cases call with
  | done outcome =>
    obtain ⟨-, -, hdone⟩ := idle _ hcalls h
    simp only [hdone, List.all_append, List.all_cons, List.all_nil, Bool.and_true,
      Bool.and_eq_true, Bool.not_eq_true'] at hclean
    exact hclean.2
  | _ => rfl

/-- All that a whole call can do to the rows. -/
inductive Serves (cfg : TokenConfig) (s s' : Sessions) : ServedEvent → Prop
  | login {user context familyId create} (hfamily : familyId ∉ s.families)
    (hfamilies : s'.families = s.families ++ [familyId])
    (h : TokenCall.Creates cfg create s.db user context familyId s'.db) :
    Serves cfg s s' (.issueTokens user context familyId create)
  | refused {token context now findToken findUser update create}
    (hends : s.ends? cfg (.rotate token context now findToken findUser update create) = none)
    (hfamilies : s'.families = s.families) (hdb : s'.db = s.db) :
    Serves cfg s s' (.rotate token context now findToken findUser update create)
  | detected {token context now findToken findUser update create stored}
    (hends : s.ends? cfg (.rotate token context now findToken findUser update create) =
      some token.payload.familyId)
    (hsigned : token ∈ s.signed)
    (hfind : s.db.refreshTokens.find? token.payload.jti = some stored)
    (hfamilies : s'.families = s.families)
    (hdb : s'.db = revokeFamily findUser s.db stored.familyId) :
    Serves cfg s s' (.rotate token context now findToken findUser update create)
  | rotated {token context now findToken findUser update create user stored db tokens}
    (hends : s.ends? cfg (.rotate token context now findToken findUser update create) = none)
    (hsigned : token ∈ s.signed)
    (hfind : s.db.refreshTokens.find? token.payload.jti = some stored)
    (hrevoked : stored.revokedAt = none) (hfamilies : s'.families = s.families)
    (hupdate : db = { s.db with
      refreshTokens := s.db.refreshTokens.modify stored.id (RefreshToken.revoke update.now)
        (RefreshToken.key_revoke update.now) })
    (hcreate : TokenCall.Creates cfg create db user context stored.familyId s'.db)
    (hlast : s'.calls.getLast? = some (.done (.rotated token tokens))) :
    Serves cfg s s' (.rotate token context now findToken findUser update create)
  | revoked {token now updateMany}
    (hends : s.ends? cfg (.revoke token now updateMany) = some token.payload.familyId)
    (hfamilies : s'.families = s.families)
    (hdb : s'.db = revokeFamily updateMany s.db token.payload.familyId) :
    Serves cfg s s' (.revoke token now updateMany)
  | ignored {token now updateMany} (hends : s.ends? cfg (.revoke token now updateMany) = none)
    (hfamilies : s'.families = s.families) (hdb : s'.db = s.db) :
    Serves cfg s s' (.revoke token now updateMany)
  | users {event : ServedEvent} (hfamily : event.family? = none)
    (hends : s.ends? cfg event = none) (hfamilies : s'.families = s.families)
    (hdb : s'.db.refreshTokens = s.db.refreshTokens) : Serves cfg s s' event

lemma serve_eq_some : serve cfg s e = some s' ↔
    exec (step cfg) s (e.statements s.calls.length) = some s' ∧
      s'.calls.all fun c => !c.failedInternally := by
  rw [serve, Option.filter_eq_some_iff]

/-- The statements of a `rotate` whose token verifies. -/
lemma serves_rotate {token : RefreshJwt} {context : RequestContext} {now : Time}
    {findToken findUser update create : TokenEnv} {s₀ : Sessions} (hverifies : s.verifies token now)
    (hdb : s₀.db = s.db) (hfamilies : s₀.families = s.families)
    (hcalls : s₀.calls = s.calls ++ [.rotate token context])
    (h : exec (step cfg) s₀ ([findToken, findUser, update, create].map
      (.proceed s.calls.length)) = some s')
    (hclean : s'.calls.all fun c => !c.failedInternally) :
    Serves cfg s s' (.rotate token context now findToken findUser update create) := by
  have hsigned := signed_of_verifies hverifies
  have hends {b : Bool} (hreused : TokenCall.reused cfg s.db token = b) :
      s.ends? cfg (.rotate token context now findToken findUser update create) =
        if b then some token.payload.familyId else none := by
    rw [ends?, hverifies, hreused, Bool.true_and]
  obtain ⟨s₁, h₁, hrest⟩ := (exec_cons_eq_some _).mp h
  obtain ⟨hdb₁, hfamilies₁, hcalls₁⟩ := proceed_last hcalls h₁
  rw [hdb] at hdb₁ hcalls₁
  rcases TokenCall.exec_rotate (clean_of_clean cfg _ hcalls₁ hrest hclean) with
    ⟨hreused, e, he⟩ | ⟨hreused, stored, hfind, he⟩ | ⟨hreused, stored, hfind, hrevoked, he⟩
  · rw [he] at hdb₁ hcalls₁
    obtain ⟨hdb', hfamilies', -⟩ := idle _ hcalls₁ hrest
    exact .refused (hends hreused) (hfamilies'.trans (hfamilies₁.trans hfamilies))
      (hdb'.trans hdb₁)
  · rw [he] at hdb₁ hcalls₁
    obtain ⟨s₂, h₂, hrest⟩ := (exec_cons_eq_some _).mp hrest
    obtain ⟨hdb₂, hfamilies₂, hcalls₂⟩ := proceed_last hcalls₁ h₂
    obtain ⟨e, he⟩ := TokenCall.exec_rotateReuse (clean_of_clean cfg _ hcalls₂ hrest hclean)
    rw [he] at hdb₂ hcalls₂
    obtain ⟨hdb', hfamilies', -⟩ := idle _ hcalls₂ hrest
    refine .detected (hends hreused) hsigned hfind
      (hfamilies'.trans (hfamilies₂.trans (hfamilies₁.trans hfamilies))) ?_
    rw [hdb', hdb₂, hdb₁]
  · rw [he] at hdb₁ hcalls₁
    obtain ⟨s₂, h₂, hrest⟩ := (exec_cons_eq_some _).mp hrest
    obtain ⟨hdb₂, hfamilies₂, hcalls₂⟩ := proceed_last hcalls₁ h₂
    rcases TokenCall.exec_rotateUser (clean_of_clean cfg _ hcalls₂ hrest hclean) with
      ⟨e, he⟩ | ⟨user, he⟩
    · rw [he] at hdb₂ hcalls₂
      obtain ⟨hdb', hfamilies', -⟩ := idle _ hcalls₂ hrest
      exact .refused (hends hreused)
        (hfamilies'.trans (hfamilies₂.trans (hfamilies₁.trans hfamilies)))
        (hdb'.trans (hdb₂.trans hdb₁))
    · rw [he] at hdb₂ hcalls₂
      obtain ⟨s₃, h₃, hrest⟩ := (exec_cons_eq_some _).mp hrest
      obtain ⟨hdb₃, hfamilies₃, hcalls₃⟩ := proceed_last hcalls₂ h₃
      have he := TokenCall.exec_rotateRevoke (clean_of_clean cfg _ hcalls₃ hrest hclean)
      rw [he] at hdb₃ hcalls₃
      obtain ⟨s₄, h₄, hrest⟩ := (exec_cons_eq_some _).mp hrest
      obtain ⟨hdb₄, hfamilies₄, hcalls₄⟩ := proceed_last hcalls₃ h₄
      cases hrest
      obtain ⟨tokens, db', he, hcreates⟩ :=
        TokenCall.exec_rotateIssue (clean_of_clean cfg [] hcalls₄ rfl hclean)
      rw [he] at hdb₄ hcalls₄
      rw [hdb₃, hdb₂, hdb₁] at hcreates
      obtain rfl : s'.db = db' := hdb₄
      exact .rotated (hends hreused) hsigned hfind hrevoked
        (hfamilies₄.trans (hfamilies₃.trans (hfamilies₂.trans (hfamilies₁.trans hfamilies)))) rfl
        hcreates (by rw [hcalls₄, List.getLast?_concat])

theorem serve_cases (h : serve cfg s e = some s') : Serves cfg s s' e := by
  obtain ⟨h, hclean⟩ := serve_eq_some.mp h
  cases e with
  | issueTokens user context familyId create =>
    obtain ⟨s₁, h₁, hrest⟩ := (exec_cons_eq_some _).mp h
    rw [step] at h₁
    split_ifs at h₁ with hfamily
    cases h₁
    obtain ⟨s₂, h₂, hrest⟩ := (exec_cons_eq_some _).mp hrest
    cases hrest
    obtain ⟨hdb, hfamilies, hcalls⟩ := proceed_last rfl h₂
    obtain ⟨tokens, db', he, hcreates⟩ :=
      TokenCall.exec_issue (clean_of_clean cfg [] hcalls rfl hclean)
    rw [he] at hdb
    exact .login hfamily hfamilies (hdb ▸ hcreates)
  | rotate token context now findToken findUser update create =>
    obtain ⟨s₁, h₁, hrest⟩ := (exec_cons_eq_some _).mp h
    cases h₁
    by_cases hverifies : s.verifies token now
    · refine serves_rotate hverifies ?_ ?_ ?_ hrest hclean
      · rfl
      · rfl
      · rw [if_pos hverifies]
    · have hdone : (if s.verifies token now then TokenCall.rotate token context else
          .done (.failed (.unauthorized "Invalid refresh token"))) =
          .done (.failed (.unauthorized "Invalid refresh token")) := if_neg hverifies
      rw [hdone] at hrest
      obtain ⟨hdb, hfamilies, -⟩ :=
        idle [findToken, findUser, update, create] rfl hrest
      refine .refused ?_ hfamilies hdb
      rw [ends?, if_neg (by simp [hverifies])]
  | revoke token now updateMany =>
    obtain ⟨s₁, h₁, hrest⟩ := (exec_cons_eq_some _).mp h
    cases h₁
    by_cases hverifies : s.verifies token now
    · rw [if_pos hverifies] at hrest
      obtain ⟨s₂, h₂, hrest⟩ := (exec_cons_eq_some _).mp hrest
      cases hrest
      obtain ⟨hdb, hfamilies, hcalls⟩ := proceed_last rfl h₂
      have hrevoke :=
        TokenCall.exec_revoke (clean_of_clean cfg [] hcalls rfl hclean)
      rw [hrevoke] at hdb
      exact .revoked (if_pos hverifies) hfamilies hdb
    · rw [if_neg hverifies] at hrest
      obtain ⟨hdb, hfamilies, -⟩ := idle [updateMany] rfl hrest
      exact .ignored (if_neg hverifies) hfamilies hdb
  | userCreated user =>
    obtain ⟨s₁, h₁, hrest⟩ := (exec_cons_eq_some _).mp h
    cases hrest
    obtain ⟨users, -, rfl⟩ := Option.map_eq_some_iff.mp h₁
    exact .users rfl rfl rfl rfl
  | userUpdated id isActive =>
    obtain ⟨s₁, h₁, hrest⟩ := (exec_cons_eq_some _).mp h
    cases hrest
    cases h₁
    exact .users rfl rfl rfl rfl

lemma Serves.families (h : Serves cfg s s' e) {F : Uuid} (hF : F ∈ s.families) :
    F ∈ s'.families := by
  cases h with
  | login _ hfamilies _ => exact hfamilies ▸ List.mem_append_left _ hF
  | refused _ hfamilies _ | revoked _ hfamilies _ | ignored _ hfamilies _ =>
    exact hfamilies.symm ▸ hF
  | detected _ _ _ hfamilies _ => exact hfamilies.symm ▸ hF
  | rotated _ _ _ _ hfamilies _ _ _ => exact hfamilies.symm ▸ hF
  | users _ _ hfamilies _ => exact hfamilies.symm ▸ hF

/-! ### Unrevoked rows of a family -/

/-- The number of unrevoked rows of a family. -/
def unrevoked (db : TokenDb) (familyId : Uuid) : Nat :=
  db.refreshTokens.rows.countP fun r => r.familyId = familyId ∧ r.revokedAt = none

section Unrevoked

variable {env : TokenEnv} {db db' : TokenDb} {F familyId : Uuid}

lemma rows_revokeFamily (env : TokenEnv) (db : TokenDb) (h : familyId ≠ F) :
    (revokeFamily env db familyId).refreshTokens.rows.filter (·.familyId = F) =
      db.refreshTokens.rows.filter (·.familyId = F) :=
  TokenCall.filter_revoke (fun _ => rfl) fun _ _ hp =>
    decide_eq_false ((of_decide_eq_true hp).1.trans_ne h)

lemma rows_creates {user : AuthenticatedUser} {context : RequestContext}
    (h : TokenCall.Creates cfg env db user context familyId db') (hne : familyId ≠ F) :
    db'.refreshTokens.rows.filter (·.familyId = F) =
      db.refreshTokens.rows.filter (·.familyId = F) :=
  h.filter fun _ => decide_eq_false hne

/-- Only the rows of the family count. -/
lemma unrevoked_congr (h : db'.refreshTokens.rows.filter (·.familyId = F) =
    db.refreshTokens.rows.filter (·.familyId = F)) : unrevoked db' F = unrevoked db F := by
  have split_filter (rows : List RefreshToken) :
      rows.countP (fun r => r.familyId = F ∧ r.revokedAt = none) =
        (rows.filter (·.familyId = F)).countP (·.revokedAt = none) := by
    rw [List.countP_filter]
    refine List.countP_congr fun r _ => ?_
    simp [and_comm]
  rw [unrevoked, unrevoked, split_filter, split_filter, h]

lemma unrevoked_revokeFamily (env : TokenEnv) (db : TokenDb) (F : Uuid) :
    unrevoked (revokeFamily env db F) F = 0 := by
  rw [unrevoked, List.countP_eq_zero]
  intro r hr hrow
  obtain ⟨hfamily, hnone⟩ := of_decide_eq_true hrow
  exact revokedAt_revokeFamily hr hfamily hnone

lemma unrevoked_creates {user : AuthenticatedUser} {context : RequestContext}
    (h : TokenCall.Creates cfg env db user context F db') :
    unrevoked db' F = unrevoked db F + 1 := by
  obtain ⟨_, _, -, -, hins, rfl⟩ := h
  rw [unrevoked, (Table.insert?_eq_some.mp hins).2.1, List.countP_append, List.countP_singleton,
    if_pos (decide_eq_true ⟨rfl, rfl⟩), unrevoked]

/-- Revoking an unrevoked row of the family leaves one less. -/
lemma unrevoked_supersede {stored : RefreshToken} (hmem : stored ∈ db.refreshTokens.rows)
    (hrevoked : stored.revokedAt = none) :
    unrevoked { db with
      refreshTokens := db.refreshTokens.modify stored.id (RefreshToken.revoke env.now)
        (RefreshToken.key_revoke env.now) } stored.familyId + 1 = unrevoked db stored.familyId := by
  have hcount := db.refreshTokens.countP_ne
    (p := fun r => r.familyId = stored.familyId ∧ r.revokedAt = none) hmem (by simp [hrevoked])
  rw [unrevoked, unrevoked, ← hcount]
  congr 1
  rw [Table.modify, Table.rows_modifyWhere, List.countP_map]
  refine List.countP_congr fun r _ => ?_
  by_cases hid : r.id = stored.id
  · simp [hid, RefreshToken.revoke]
  · simp [hid]

end Unrevoked

/-! ### Whole runs -/

/-- Between two calls: a family that has been opened has one unrevoked row, or none if it has been
ended. -/
structure Living (cfg : TokenConfig) (s : Sessions) (ended : List Uuid) : Prop where
  consistent : s.Consistent
  owned : s.Owned cfg
  rows : ∀ F ∈ s.families, unrevoked s.db F = if F ∈ ended then 0 else 1
  ended : ∀ F ∈ ended, F ∈ s.families

lemma living_initial (cfg : TokenConfig) (users : Table User) : (initial users).Living cfg [] :=
  ⟨consistent_initial users, owned_initial cfg users, fun _ h => (by cases h),
    fun _ h => (by cases h)⟩

lemma Consistent.mem_families_of_ends? (hs : s.Consistent) {F : Uuid} (hF : F ∈ s.ends? cfg e) :
    F ∈ s.families := by
  have ofVerifies {token : RefreshJwt} {now : Time} (h : s.verifies token now) :
      token.payload.familyId ∈ s.families := hs.signed token (signed_of_verifies h)
  cases e with
  | rotate token _ now _ _ _ _ =>
    simp only [ends?, Option.mem_def] at hF
    split_ifs at hF with hends
    cases hF
    exact ofVerifies ((Bool.and_eq_true _ _).mp hends).1
  | revoke token now _ =>
    simp only [ends?, Option.mem_def] at hF
    split_ifs at hF with hends
    cases hF
    exact ofVerifies hends
  | _ => cases hF

section Living

variable {ended : List Uuid}

/-- A family that has not been opened has no rows. -/
lemma Living.unrevoked_eq_zero (hs : s.Living cfg ended) {F : Uuid} (hF : F ∉ s.families) :
    unrevoked s.db F = 0 := by
  rw [unrevoked, List.countP_eq_zero]
  intro r hr hrow
  obtain ⟨t, ht, hfamily⟩ := hs.consistent.rows r hr
  have hmem := hs.consistent.signed t ht
  rw [hfamily, (of_decide_eq_true hrow).1] at hmem
  exact hF hmem

/-- The call that ends a family. -/
lemma Living.close (hs : s.Living cfg ended) {env : TokenEnv} {familyId : Uuid}
    (hfamilies : s'.families = s.families) (hdb : s'.db = revokeFamily env s.db familyId) :
    ∀ F ∈ s'.families, unrevoked s'.db F = if F ∈ ended ++ [familyId] then 0 else 1 := by
  intro F hF
  rw [hfamilies] at hF
  rw [hdb]
  by_cases heq : familyId = F
  · rw [heq, unrevoked_revokeFamily, if_pos (by simp)]
  · rw [unrevoked_congr (rows_revokeFamily env s.db heq), hs.rows F hF]
    simp [Ne.symm heq]

lemma Living.rotate (hs : s.Living cfg ended) {update create : TokenEnv} {user : AuthenticatedUser}
    {context : RequestContext} {stored : RefreshToken} (hmem : stored ∈ s.db.refreshTokens.rows)
    (hrevoked : stored.revokedAt = none) (hfamilies : s'.families = s.families)
    (hcreate : TokenCall.Creates cfg create { s.db with
      refreshTokens := s.db.refreshTokens.modify stored.id (RefreshToken.revoke update.now)
        (RefreshToken.key_revoke update.now) } user context stored.familyId s'.db) :
    ∀ F ∈ s'.families, unrevoked s'.db F = if F ∈ ended then 0 else 1 := by
  intro F hF
  rw [hfamilies] at hF
  rw [← hs.rows F hF]
  by_cases heq : stored.familyId = F
  · subst heq
    rw [unrevoked_creates hcreate, unrevoked_supersede hmem hrevoked]
  · rw [unrevoked_congr (rows_creates hcreate heq)]
    refine unrevoked_congr (TokenCall.filter_revoke (fun _ => rfl) fun r hr hid => ?_)
    rw [s.db.refreshTokens.eq_of_key_eq hr hmem (of_decide_eq_true hid)]
    exact decide_eq_false heq

lemma Living.serve (hs : s.Living cfg ended) (h : serve cfg s e = some s') :
    s'.Living cfg (ended ++ (s.ends? cfg e).toList) := by
  have hinvariant : s'.Consistent ∧ s'.Owned cfg :=
    exec_invariant (step cfg) (I := fun s => s.Consistent ∧ s.Owned cfg)
      (fun _ _ _ ⟨hc, ho⟩ h => ⟨(step_cases h).consistent hc, (step_cases h).owned hc ho⟩)
      ⟨hs.consistent, hs.owned⟩ (serve_eq_some.mp h).1
  refine ⟨hinvariant.1, hinvariant.2, ?_, ?_⟩
  · cases serve_cases h with
    | @login user context familyId create hfamily hfamilies hcreate =>
      intro F hF
      rw [hfamilies, List.mem_append, List.mem_singleton] at hF
      simp only [ends?, Option.toList_none, List.append_nil]
      by_cases heq : familyId = F
      · subst heq
        rw [unrevoked_creates hcreate, hs.unrevoked_eq_zero hfamily,
          if_neg fun hmem => hfamily (hs.ended familyId hmem)]
      · rw [unrevoked_congr (rows_creates hcreate heq)]
        exact hs.rows F (hF.resolve_right (Ne.symm heq))
    | refused hends hfamilies hdb | ignored hends hfamilies hdb =>
      rw [hends, hfamilies, hdb]
      simpa using hs.rows
    | @detected token _ _ _ _ _ _ stored hends hsigned hfind hfamilies hdb =>
      obtain ⟨hmem, hid⟩ := Table.find?_eq_some.mp hfind
      rw [(hs.owned.records hsigned hmem hid).familyId] at hdb
      rw [hends]
      exact hs.close hfamilies hdb
    | rotated hends hsigned hfind hrevoked hfamilies hupdate hcreate _ =>
      subst hupdate
      rw [hends, Option.toList_none, List.append_nil]
      exact hs.rotate (Table.find?_eq_some.mp hfind).1 hrevoked hfamilies hcreate
    | revoked hends hfamilies hdb =>
      rw [hends]
      exact hs.close hfamilies hdb
    | users _ hends hfamilies hdb =>
      rw [hends, hfamilies]
      simpa [unrevoked, hdb] using hs.rows
  · intro F hF
    rcases List.mem_append.mp hF with hF | hF
    · exact (serve_cases h).families (hs.ended F hF)
    · exact (serve_cases h).families (hs.consistent.mem_families_of_ends? (Option.mem_toList.mp hF))

end Living

/-- In a serial run a family has one unrevoked row from its login on, until a call ends it, and none
from then on. A `rotate` that is refused and ends nothing changes no row, and no call changes rows
of a family other than that of its token. -/
theorem family_life (cfg : TokenConfig) (users : Table User) {es : List ServedEvent} {s : Sessions}
    (h : exec (serve cfg) (initial users) es = some s) :
    (∀ F ∈ s.families,
      unrevoked s.db F = if F ∈ ended cfg (initial users) es then 0 else 1) ∧
    ∀ e s', serve cfg s e = some s' →
      (∀ token context now findToken findUser update create,
        e = .rotate token context now findToken findUser update create → s.ends? cfg e = none →
        (∀ tokens, s'.calls.getLast? ≠ some (.done (.rotated token tokens))) → s'.db = s.db) ∧
      ∀ F, e.family? ≠ some F → s'.db.refreshTokens.rows.filter (·.familyId = F) =
        s.db.refreshTokens.rows.filter (·.familyId = F) := by
  have hs : s.Living cfg (ended cfg (initial users) es) :=
    exec_collect_invariant (serve cfg) (I := Living cfg) (fun s e s' l hs h => hs.serve h)
      (living_initial cfg users) h
  refine ⟨hs.rows, fun e s' h => ⟨?_, fun F hF => ?_⟩⟩
  · rintro token context now findToken findUser update create rfl hends hlast
    cases serve_cases h with
    | refused _ _ hdb => exact hdb
    | detected hends' _ _ _ _ =>
      rw [hends] at hends'
      cases hends'
    | rotated _ _ _ _ _ _ _ hrotated => exact absurd hrotated (hlast _)
    | users hfamily _ _ _ => cases hfamily
  · have hfamily {familyId : Uuid} (he : e.family? = some familyId) : familyId ≠ F :=
      fun heq => hF (he.trans (congrArg some heq))
    cases serve_cases h with
    | login _ _ hcreate => exact rows_creates hcreate (hfamily rfl)
    | refused _ _ hdb | ignored _ _ hdb => rw [hdb]
    | detected _ hsigned hfind _ hdb =>
      obtain ⟨hmem, hid⟩ := Table.find?_eq_some.mp hfind
      rw [hdb]
      exact rows_revokeFamily _ _ ((hs.owned.records hsigned hmem hid).familyId ▸ hfamily rfl)
    | @rotated token _ _ _ _ update _ _ stored _ _ _ hsigned hfind _ _ hupdate hcreate _ =>
      obtain ⟨hmem, hid⟩ := Table.find?_eq_some.mp hfind
      have hne : stored.familyId ≠ F := (hs.owned.records hsigned hmem hid).familyId ▸ hfamily rfl
      subst hupdate
      rw [rows_creates hcreate hne]
      refine TokenCall.filter_revoke (fun _ => rfl) fun r hr hid' => ?_
      rw [s.db.refreshTokens.eq_of_key_eq hr hmem (of_decide_eq_true hid')]
      exact decide_eq_false hne
    | revoked _ _ hdb =>
      rw [hdb]
      exact rows_revokeFamily _ _ (hfamily rfl)
    | users _ _ _ hdb => rw [hdb]

/-- A customer logs in, refreshes the session and presents the old token again. -/
def reuseRun : List ServedEvent :=
  [.issueTokens Seed.session Seed.context 900 (Seed.tokenEnv 1),
    .rotate (Seed.token 1) Seed.context 2 (Seed.tokenEnv 2) (Seed.tokenEnv 3) (Seed.tokenEnv 4)
      (Seed.tokenEnv 5),
    .rotate (Seed.token 1) Seed.context 6 (Seed.tokenEnv 6) (Seed.tokenEnv 7) (Seed.tokenEnv 8)
      (Seed.tokenEnv 9)]

theorem family_life_reuse :
    ∃ s, exec (serve Seed.tokenConfig) (initial Seed.users) reuseRun = some s ∧
      s.families = [900] ∧ unrevoked s.db 900 = 0 := by
  have hrun : (exec (serve Seed.tokenConfig) (initial Seed.users) reuseRun).any fun s =>
      s.families = [900] := by decide
  obtain ⟨s, hs, hfamilies⟩ := exists_of_any hrun
  have hended : 900 ∈ ended Seed.tokenConfig (initial Seed.users) reuseRun := by decide
  have hlife := (family_life Seed.tokenConfig Seed.users hs).1 900 (by simp [hfamilies])
  exact ⟨s, hs, hfamilies, hlife.trans (if_pos hended)⟩

end Sessions

end SupportPlatform
