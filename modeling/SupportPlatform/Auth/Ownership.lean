import SupportPlatform.Auth.Sessions

/-!
# Owners of token families

`revoke` takes the family from the token that is presented, the reuse branch of `rotate` from the
stored row, and a rotation carries user and family through several statements. They agree because
every row is the record of one signed token and every call works on behalf of one.
-/

namespace SupportPlatform

/-- The row is the one `issueTokens` creates for the token. -/
structure RefreshToken.Records (cfg : TokenConfig) (r : RefreshToken) (t : RefreshJwt) : Prop where
  id : r.id = t.payload.jti
  userId : r.userId = t.payload.sub
  familyId : r.familyId = t.payload.familyId
  tokenHash : r.tokenHash = cfg.hash t

namespace TokenCall

/-- What the call holds in memory is the token it was given, one that was signed here, and what
belongs to it. -/
def Backed (signed : List RefreshJwt) : TokenCall → Prop
  | .rotate token _ | .revoke token => token ∈ signed
  | .rotateReuse token familyId => token ∈ signed ∧ familyId = token.payload.familyId
  | .rotateUser token _ stored =>
    token ∈ signed ∧ stored.id = token.payload.jti ∧ stored.familyId = token.payload.familyId ∧
      stored.userId = token.payload.sub
  | .rotateRevoke token _ stored user =>
    token ∈ signed ∧ stored.id = token.payload.jti ∧ stored.familyId = token.payload.familyId ∧
      user.id = token.payload.sub
  | .rotateIssue token _ user familyId =>
    token ∈ signed ∧ user.id = token.payload.sub ∧ familyId = token.payload.familyId
  | .issue _ _ _ | .done _ => True

/-- The user on whose behalf the call runs its next statement. -/
def onBehalfOf? : TokenCall → Option Uuid
  | .issue user _ _ => some user.id
  | .rotate token _ | .rotateReuse token _ | .rotateUser token _ _ | .rotateRevoke token _ _ _
  | .rotateIssue token _ _ _ | .revoke token => some token.payload.sub
  | .done _ => none

lemma Backed.mono {signed : List RefreshJwt} {c : TokenCall} (h : c.Backed signed)
    (new : List RefreshJwt) : c.Backed (signed ++ new) := by
  cases c with
  | rotate | revoke => exact List.mem_append_left _ h
  | rotateReuse | rotateUser | rotateRevoke | rotateIssue =>
    exact ⟨List.mem_append_left _ h.1, h.2⟩
  | issue | done => trivial

section Step

variable {cfg : TokenConfig} {env : TokenEnv} {db db' : TokenDb} {call call' : TokenCall}
  {new signed : List RefreshJwt}

/-- A step signs one token at most. -/
lemma Executes.signed_unique (h : Executes cfg env db call db' new call') {t t' : RefreshJwt}
    (ht : t ∈ new) (ht' : t' ∈ new) : t = t' := by
  cases h with
  | issueFailed | issued | rotateFailed | rotated =>
    exact (List.mem_singleton.mp ht).trans (List.mem_singleton.mp ht').symm
  | _ => cases ht

/-- What a step signs opens its family, or is for the user and the family of the token that was
presented. -/
lemma Executes.signed_for (h : Executes cfg env db call db' new call') (hcall : call.Backed signed)
    {t : RefreshJwt} (ht : t ∈ new) :
    t.payload.familyId ∈ call.opening? ∨
      ∃ token ∈ signed, t.payload.sub = token.payload.sub ∧
        t.payload.familyId = token.payload.familyId := by
  cases h with
  | issueFailed | issued =>
    obtain rfl := List.mem_singleton.mp ht
    exact .inl rfl
  | rotateFailed | rotated =>
    obtain rfl := List.mem_singleton.mp ht
    exact .inr ⟨_, hcall.1, hcall.2.1, hcall.2.2⟩
  | _ => cases ht

/-- A row is the record of the token it was the record of before, or of one just signed. -/
lemma Executes.records (h : Executes cfg env db call db' new call') {r : RefreshToken}
    (hr : r ∈ db'.refreshTokens.rows) :
    (∃ a ∈ db.refreshTokens.rows, ∀ t, a.Records cfg t → r.Records cfg t) ∨
      ∃ t ∈ new, r.Records cfg t := by
  have modified {p : RefreshToken → Bool} (hr : r ∈ db.refreshTokens.rows.map fun a =>
      if p a then RefreshToken.revoke env.now a else a) :
      ∃ a ∈ db.refreshTokens.rows, ∀ t, a.Records cfg t → r.Records cfg t := by
    obtain ⟨a, ha, rfl⟩ := List.mem_map.mp hr
    refine ⟨a, ha, fun t ht => ?_⟩
    split
    · exact ⟨ht.id, ht.userId, ht.familyId, ht.tokenHash⟩
    · exact ht
  cases h with
  | issued h | rotated h =>
    obtain ⟨_, _, -, -, hins, rfl⟩ := h
    rcases (Table.mem_insert? hins).mp hr with hr | rfl
    · exact .inl ⟨r, hr, fun _ => id⟩
    · exact .inr ⟨_, List.mem_cons_self, rfl, rfl, rfl, rfl⟩
  | detected => exact .inl (modified hr)
  | superseded => exact .inl (modified hr)
  | revoked => exact .inl (modified hr)
  | _ => exact .inl ⟨r, hr, fun _ => id⟩

/-- If rows are records of the tokens signed, a call that goes on keeps to its token. -/
lemma Executes.backed (h : Executes cfg env db call db' new call') (hcall : call.Backed signed)
    (hrow : ∀ t ∈ signed, ∀ r ∈ db.refreshTokens.rows, r.id = t.payload.jti → r.Records cfg t) :
    call'.Backed signed := by
  cases h with
  | reused hfind _ _ =>
    obtain ⟨hmem, hid⟩ := Table.find?_eq_some.mp hfind
    exact ⟨hcall, (hrow _ hcall _ hmem hid).familyId⟩
  | found hfind _ _ _ =>
    obtain ⟨hmem, hid⟩ := Table.find?_eq_some.mp hfind
    have hrecords := hrow _ hcall _ hmem hid
    exact ⟨hcall, hid, hrecords.familyId, hrecords.userId⟩
  | active hfind _ =>
    obtain ⟨htoken, hid, hfamily, huser⟩ := hcall
    exact ⟨htoken, hid, hfamily, (Table.find?_eq_some.mp hfind).2.trans huser⟩
  | superseded => exact ⟨hcall.1, hcall.2.2.2, hcall.2.2.1⟩
  | _ => trivial

/-- Revoking rows leaves those of any class alone that it revokes no row of. -/
lemma filter_revoke {p q : RefreshToken → Bool} (hq : ∀ r, q (RefreshToken.revoke env.now r) = q r)
    (hp : ∀ r ∈ db.refreshTokens.rows, p r → q r = false) :
    (db.refreshTokens.modifyWhere p (RefreshToken.revoke env.now)
      (RefreshToken.key_revoke env.now)).rows.filter q = db.refreshTokens.rows.filter q :=
  Table.filter_modifyWhere _ p q _ _ fun r hr h => ⟨hp r hr h, (hq r).trans (hp r hr h)⟩

lemma Creates.filter {user : AuthenticatedUser} {context : RequestContext} {familyId : Uuid}
    (h : Creates cfg env db user context familyId db') {q : RefreshToken → Bool}
    (hq : ∀ expiresAt, q (TokenService.newRow cfg env user context familyId expiresAt) = false) :
    db'.refreshTokens.rows.filter q = db.refreshTokens.rows.filter q := by
  obtain ⟨expiresAt, _, -, -, hins, rfl⟩ := h
  rw [(Table.insert?_eq_some.mp hins).2.1, List.filter_append, List.filter_singleton,
    hq, cond_false, List.append_nil]

/-- A statement changes no row of a user on whose behalf it does not run. -/
lemma Executes.frame (h : Executes cfg env db call db' new call') (hcall : call.Backed signed)
    (hrow : ∀ t ∈ signed, ∀ r ∈ db.refreshTokens.rows, r.id = t.payload.jti → r.Records cfg t)
    (hfamily : ∀ t ∈ signed, ∀ r ∈ db.refreshTokens.rows, r.familyId = t.payload.familyId →
      r.userId = t.payload.sub) {u : Uuid} (hu : call.onBehalfOf? ≠ some u) :
    db'.refreshTokens.rows.filter (·.userId = u) =
      db.refreshTokens.rows.filter (·.userId = u) := by
  cases h with
  | issued h => exact h.filter fun _ => decide_eq_false fun heq => hu (congrArg some heq)
  | rotated h =>
    exact h.filter fun _ => decide_eq_false fun heq =>
      hu (congrArg some (hcall.2.1.symm.trans heq))
  | detected =>
    refine filter_revoke (fun _ => rfl) fun r hr hp => decide_eq_false fun heq =>
      hu (congrArg some ?_)
    rw [← hfamily _ hcall.1 r hr ((of_decide_eq_true hp).1.trans hcall.2), heq]
  | superseded =>
    refine filter_revoke (fun _ => rfl) fun r hr hp => decide_eq_false fun heq =>
      hu (congrArg some ?_)
    rw [← (hrow _ hcall.1 r hr ((of_decide_eq_true hp).trans hcall.2.1)).userId, heq]
  | revoked =>
    refine filter_revoke (fun _ => rfl) fun r hr hp => decide_eq_false fun heq =>
      hu (congrArg some ?_)
    rw [← hfamily _ hcall r hr (of_decide_eq_true hp).1, heq]
  | _ => rfl

end Step

end TokenCall

namespace Sessions

open Machine

/-- Tokens are told apart by their jti, those of one family are for one user, every row is the
record of a token, and every call works on behalf of one. -/
structure Owned (cfg : TokenConfig) (s : Sessions) : Prop where
  jti : ∀ t ∈ s.signed, ∀ t' ∈ s.signed, t.payload.jti = t'.payload.jti → t = t'
  sub : ∀ t ∈ s.signed, ∀ t' ∈ s.signed, t.payload.familyId = t'.payload.familyId →
    t.payload.sub = t'.payload.sub
  rows : ∀ r ∈ s.db.refreshTokens.rows, ∃ t ∈ s.signed, r.Records cfg t
  calls : ∀ c ∈ s.calls, c.Backed s.signed

variable {cfg : TokenConfig} {s s' : Sessions} {e : SessionEvent}

lemma owned_initial (cfg : TokenConfig) (users : Table User) : (initial users).Owned cfg := by
  constructor <;> intro _ h <;> cases h

lemma Owned.records (hs : s.Owned cfg) {t : RefreshJwt} (ht : t ∈ s.signed) {r : RefreshToken}
    (hr : r ∈ s.db.refreshTokens.rows) (hid : r.id = t.payload.jti) : r.Records cfg t := by
  obtain ⟨t', ht', hrecords⟩ := hs.rows r hr
  obtain rfl := hs.jti t ht t' ht' (hid.symm.trans hrecords.id)
  exact hrecords

lemma Owned.userId (hs : s.Owned cfg) {t : RefreshJwt} (ht : t ∈ s.signed) {r : RefreshToken}
    (hr : r ∈ s.db.refreshTokens.rows) (hfamily : r.familyId = t.payload.familyId) :
    r.userId = t.payload.sub := by
  obtain ⟨t', ht', hrecords⟩ := hs.rows r hr
  exact hrecords.userId.trans (hs.sub t' ht' t ht (hrecords.familyId.symm.trans hfamily))

/-! ### One step -/

lemma Owned.push {c : TokenCall} (hs : s.Owned cfg) (hc : c.Backed s.signed) :
    ({ s with calls := s.calls ++ [c] } : Sessions).Owned cfg := by
  refine ⟨hs.jti, hs.sub, hs.rows, fun c' hc' => ?_⟩
  rcases List.mem_append.mp hc' with hc' | hc'
  · exact hs.calls c' hc'
  · exact List.mem_singleton.mp hc' ▸ hc

lemma Owned.proceed {i : Nat} {env : TokenEnv} {call call' : TokenCall} {db : TokenDb}
    {new : List RefreshJwt} (hs : s.Owned cfg) (hconsistent : s.Consistent)
    (hcall : s.calls[i]? = some call) (hfresh : call.signs → s.fresh env.jti)
    (h : TokenCall.Executes cfg env s.db call db new call') :
    ({ s with
      db
      signed := s.signed ++ new
      superseded := s.superseded ++ call.supersedes call'
      calls := s.calls.set i call' } : Sessions).Owned cfg := by
  have hmem := List.mem_of_getElem? hcall
  have hbacked := hs.calls call hmem
  have hnew : ∀ t ∈ new, ∀ t' ∈ s.signed, t'.payload.jti ≠ t.payload.jti := by
    intro t ht t' ht' heq
    have hfree := hfresh (h.signed ht).2.1
    simp only [fresh, Bool.and_eq_true, decide_eq_true_eq] at hfree
    exact hfree.1 ((h.signed ht).1 ▸ heq ▸ List.mem_map_of_mem ht')
  have hsub : ∀ t ∈ new, ∀ t' ∈ s.signed, t'.payload.familyId = t.payload.familyId →
      t'.payload.sub = t.payload.sub := by
    intro t ht t' ht' heq
    rcases h.signed_for hbacked ht with hopening | ⟨token, htoken, hsub, hfamily⟩
    · exact absurd ⟨t', ht', heq⟩ (hconsistent.opening call hmem _ hopening).2
    · exact (hs.sub t' ht' token htoken (heq.trans hfamily)).trans hsub.symm
  constructor
  case jti =>
    intro t ht t' ht' heq
    rcases List.mem_append.mp ht with ht | ht <;> rcases List.mem_append.mp ht' with ht' | ht'
    · exact hs.jti t ht t' ht' heq
    · exact absurd heq (hnew t' ht' t ht)
    · exact absurd heq.symm (hnew t ht t' ht')
    · exact h.signed_unique ht ht'
  case sub =>
    intro t ht t' ht' heq
    rcases List.mem_append.mp ht with ht | ht <;> rcases List.mem_append.mp ht' with ht' | ht'
    · exact hs.sub t ht t' ht' heq
    · exact hsub t' ht' t ht heq
    · exact (hsub t ht t' ht' heq.symm).symm
    · rw [h.signed_unique ht ht']
  case rows =>
    intro r hr
    rcases h.records hr with ⟨a, ha, hrecords⟩ | ⟨t, ht, hrecords⟩
    · obtain ⟨t, ht, hold⟩ := hs.rows a ha
      exact ⟨t, List.mem_append_left _ ht, hrecords t hold⟩
    · exact ⟨t, List.mem_append_right _ ht, hrecords⟩
  case calls =>
    intro c hc
    rcases List.mem_or_eq_of_mem_set hc with hc | rfl
    · exact (hs.calls c hc).mono new
    · exact (h.backed hbacked fun t ht r hr hid => hs.records ht hr hid).mono new

theorem Steps.owned (h : Steps cfg s e s') (hconsistent : s.Consistent) (hs : s.Owned cfg) :
    s'.Owned cfg := by
  cases h with
  | @issue user context familyId _ =>
    exact ⟨hs.jti, hs.sub, hs.rows, (hs.push (c := .issue user context familyId) trivial).calls⟩
  | rotate hsigned => exact hs.push hsigned
  | revoke hsigned => exact hs.push hsigned
  | @refused _ outcome _ => exact hs.push (c := .done outcome) trivial
  | proceed hcall hfresh h => exact hs.proceed hconsistent hcall hfresh h
  | users => exact ⟨hs.jti, hs.sub, hs.rows, hs.calls⟩
  | cascade =>
    exact ⟨hs.jti, hs.sub, fun r hr => hs.rows r (List.mem_of_mem_filter hr), hs.calls⟩

lemma owned_of_exec {users : Table User} {es : List SessionEvent}
    (h : exec (step cfg) (initial users) es = some s) : s.Consistent ∧ s.Owned cfg :=
  exec_invariant (step cfg) (I := fun s => s.Consistent ∧ s.Owned cfg)
    (fun _ _ _ ⟨hc, hs⟩ h => ⟨(step_cases h).consistent hc, (step_cases h).owned hc hs⟩)
    ⟨consistent_initial users, owned_initial cfg users⟩ h

/-! ### Whole runs -/

/-- In every state reached, the rows of a family belong to one user and the row of a signed token
agrees with it. So the reuse branch of `rotate` and `revoke` select the same rows for a token, and
no statement changes a row of a user other than the one it runs for. -/
theorem family_ownership (cfg : TokenConfig) (users : Table User) {es : List SessionEvent}
    {s : Sessions} (h : exec (step cfg) (initial users) es = some s) :
    (∀ r ∈ s.db.refreshTokens.rows, ∀ r' ∈ s.db.refreshTokens.rows, r.familyId = r'.familyId →
      r.userId = r'.userId) ∧
    (∀ t ∈ s.signed, ∀ r ∈ s.db.refreshTokens.rows, r.id = t.payload.jti →
      r.userId = t.payload.sub ∧ r.familyId = t.payload.familyId ∧ r.tokenHash = cfg.hash t) ∧
    (∀ token familyId, .rotateReuse token familyId ∈ s.calls →
      ∀ env : TokenEnv, ((TokenCall.rotateReuse token familyId).exec cfg env s.db).1 =
        ((TokenCall.revoke token).exec cfg env s.db).1) ∧
    ∀ call ∈ s.calls, ∀ u, call.onBehalfOf? ≠ some u →
      ∀ env : TokenEnv, (call.exec cfg env s.db).1.refreshTokens.rows.filter (·.userId = u) =
        s.db.refreshTokens.rows.filter (·.userId = u) := by
  obtain ⟨-, hs⟩ := owned_of_exec h
  refine ⟨fun r hr r' hr' hfamily => ?_, fun t ht r hr hid => ?_, fun token familyId hc env => ?_,
    fun call hcall u hu env => ?_⟩
  · obtain ⟨t, ht, hrecords⟩ := hs.rows r' hr'
    exact (hs.userId ht hr (hfamily.trans hrecords.familyId)).trans hrecords.userId.symm
  · have hrecords := hs.records ht hr hid
    exact ⟨hrecords.userId, hrecords.familyId, hrecords.tokenHash⟩
  · obtain ⟨-, rfl⟩ := hs.calls _ hc
    rw [TokenCall.exec, TokenCall.exec]
    cases env.fault <;> rfl
  · have hexecutes : call.Executes cfg env s.db _ _ _ := TokenCall.exec_cases rfl
    exact hexecutes.frame (hs.calls call hcall) (fun t ht r hr hid => hs.records ht hr hid)
      (fun t ht r hr hfamily => hs.userId ht hr hfamily) hu

/-- An agent and a customer log in; the customer refreshes and presents the old token again. -/
def replayedRun : List SessionEvent :=
  [.issue Seed.agentSession Seed.context 901, .proceed 0 (Seed.tokenEnv 0),
    .issue Seed.session Seed.context 900, .proceed 1 (Seed.tokenEnv 1),
    .rotate (Seed.token 1) Seed.context 2, .proceed 2 (Seed.tokenEnv 2),
    .proceed 2 (Seed.tokenEnv 3), .proceed 2 (Seed.tokenEnv 4), .proceed 2 (Seed.tokenEnv 5),
    .rotate (Seed.token 1) Seed.context 6, .proceed 3 (Seed.tokenEnv 6)]

theorem family_ownership_replayed :
    ∃ s, exec (step Seed.tokenConfig) (initial Seed.users) replayedRun = some s ∧
      TokenCall.rotateReuse (Seed.token 1) 900 ∈ s.calls ∧
      (((TokenCall.rotateReuse (Seed.token 1) 900).exec Seed.tokenConfig (Seed.tokenEnv 7)
        s.db).1.refreshTokens.rows.filter (·.userId = 12)) =
          s.db.refreshTokens.rows.filter (·.userId = 12) := by
  have hrun : (exec (step Seed.tokenConfig) (initial Seed.users) replayedRun).any fun s =>
      TokenCall.rotateReuse (Seed.token 1) 900 ∈ s.calls := by decide
  obtain ⟨s, hs, hmem⟩ := exists_of_any hrun
  obtain ⟨-, -, -, hframe⟩ := family_ownership Seed.tokenConfig Seed.users hs
  exact ⟨s, hs, hmem, hframe _ hmem 12 (by decide) (Seed.tokenEnv 7)⟩

end Sessions

end SupportPlatform
