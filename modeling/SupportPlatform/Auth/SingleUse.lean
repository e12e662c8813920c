import SupportPlatform.Auth.Sessions

/-!
# Single use of refresh tokens

`rotate` checks that its row is not revoked and revokes it two statements later, without looking
again. As long as no two rotations supersede the same row, a family has one open end: a row that
is not superseded, or a call about to insert one.
-/

namespace SupportPlatform

namespace TokenCall

/-- The call is about to insert a row of the family. -/
def opens (familyId : Uuid) : TokenCall → Bool
  | .issue _ _ F | .rotateIssue _ _ _ F => F = familyId
  | _ => false

/-- A `rotate` of the token that has superseded its row and has not failed. -/
def passed (token : RefreshJwt) : TokenCall → Bool
  | .rotateIssue t _ _ _ | .done (.rotated t _) => t = token
  | _ => false

/-- A `rotate` of the token that got a new pair. -/
def gotPair (token : RefreshJwt) : TokenCall → Bool
  | .done (.rotated t _) => t = token
  | _ => false

lemma passed_of_gotPair {token : RefreshJwt} {c : TokenCall} (h : c.gotPair token) :
    c.passed token := by
  cases c with
  | done outcome =>
    cases outcome with
    | rotated => exact h
    | _ => cases h
  | _ => cases h

end TokenCall

/-- The rows of the family that are not superseded. -/
def TokenDb.live (db : TokenDb) (superseded : List Uuid) (familyId : Uuid) : Nat :=
  db.refreshTokens.rows.countP fun r => r.familyId = familyId && r.id ∉ superseded

/-! ### One step of a call -/

section Live

variable {cfg : TokenConfig} {env : TokenEnv} {db db' : TokenDb} {superseded : List Uuid}
  {F familyId : Uuid}

/-- Revoking rows does not supersede them. -/
lemma TokenDb.live_revoke {p : RefreshToken → Bool}
    (h : db'.refreshTokens.rows = db.refreshTokens.rows.map fun r =>
      if p r then RefreshToken.revoke env.now r else r) :
    db'.live superseded F = db.live superseded F := by
  rw [live, h]
  exact Table.countP_modifyWhere db.refreshTokens p _ _ (RefreshToken.key_revoke env.now)
    fun _ => rfl

lemma TokenDb.live_revokeFamily (env : TokenEnv) (db : TokenDb) (superseded : List Uuid)
    (familyId F : Uuid) :
    (TokenService.revokeFamily env db familyId).live superseded F = db.live superseded F :=
  live_revoke rfl

lemma TokenDb.live_append_le (db : TokenDb) (superseded ids : List Uuid) (F : Uuid) :
    db.live (superseded ++ ids) F ≤ db.live superseded F := by
  refine List.countP_mono_left fun r _ h => ?_
  simp only [List.mem_append, not_or, Bool.and_eq_true, decide_eq_true_eq] at h ⊢
  exact ⟨h.1, h.2.1⟩

/-- The row that is superseded was an open end of its family. -/
lemma TokenDb.live_supersede {stored row : RefreshToken}
    (hfind : db.refreshTokens.find? stored.id = some row) (hrow : row.familyId = F)
    (honce : stored.id ∉ superseded) :
    db.live (superseded ++ [stored.id]) F + 1 = db.live superseded F := by
  obtain ⟨hmem, hkey⟩ := Table.find?_eq_some.mp hfind
  have hid : row.id = stored.id := hkey
  have hcount := db.refreshTokens.countP_ne
    (p := fun r => r.familyId = F && r.id ∉ superseded) hmem (by simp [hrow, hid, honce])
  rw [live, live, ← hcount]
  congr 1
  refine List.countP_congr fun r _ => ?_
  simp only [List.mem_append, List.mem_singleton, not_or, Bool.and_eq_true, decide_eq_true_eq,
    RefreshToken.key_eq_id, hid, and_assoc]

lemma TokenCall.Creates.live_le {user : AuthenticatedUser} {context : RequestContext}
    (h : TokenCall.Creates cfg env db user context familyId db') (superseded : List Uuid)
    (F : Uuid) :
    db'.live superseded F ≤ db.live superseded F + if familyId = F then 1 else 0 := by
  obtain ⟨expiresAt, refreshTokens, -, -, hins, rfl⟩ := h
  rw [TokenDb.live, (Table.insert?_eq_some.mp hins).2.1, List.countP_append,
    List.countP_singleton, TokenDb.live]
  by_cases hF : familyId = F
  · simp only [hF, if_true]
    split <;> omega
  · simp [TokenService.newRow, hF]

/-- A step of a call moves an open end of its family, or closes one, or does nothing. -/
lemma TokenCall.Executes.live {call call' : TokenCall} {new : List RefreshJwt}
    (h : TokenCall.Executes cfg env db call db' new call') (superseded : List Uuid) (F : Uuid)
    (hrow : ∀ token context stored user, call = .rotateRevoke token context stored user →
      env.fault = none → stored.id ∉ superseded ∧
        db.refreshTokens.Names RefreshToken.familyId stored.id stored.familyId) :
    db'.live (superseded ++ call.supersedes call') F + (if call'.opens F then 1 else 0) ≤
      db.live superseded F + if call.opens F then 1 else 0 := by
  have hsupersedes := db'.live_append_le superseded (call.supersedes call') F
  cases h with
  | @failed call _ =>
    simp only [opens, Bool.false_eq_true, if_false]
    omega
  | issued h =>
    have hlive := h.live_le superseded F
    simp only [opens, decide_eq_true_eq, Bool.false_eq_true, if_false]
    omega
  | rotated h =>
    have hlive := h.live_le superseded F
    simp only [opens, decide_eq_true_eq, Bool.false_eq_true, if_false]
    omega
  | detected | revoked =>
    simp only [TokenDb.live_revokeFamily] at hsupersedes ⊢
    simp only [opens, Bool.false_eq_true, if_false]
    omega
  | @superseded token context stored user row hfault hfind =>
    obtain ⟨honce, hnames⟩ := hrow token context stored user rfl hfault
    have hrevoke : TokenDb.live { db with
        refreshTokens := db.refreshTokens.modify stored.id (RefreshToken.revoke env.now)
          (RefreshToken.key_revoke env.now) } (superseded ++ [stored.id]) F =
        db.live (superseded ++ [stored.id]) F := TokenDb.live_revoke rfl
    simp only [opens, TokenCall.supersedes, decide_eq_true_eq, Bool.false_eq_true, if_false]
    rw [hrevoke]
    split
    · next hF =>
      obtain ⟨hmem, hkey⟩ := Table.find?_eq_some.mp hfind
      have := TokenDb.live_supersede hfind ((hnames.2 row hmem hkey).trans hF) honce
      omega
    · exact db.live_append_le superseded [stored.id] F
  | _ =>
    simp only [opens, Bool.false_eq_true, if_false]
    omega

end Live

namespace Sessions

open Machine

variable {cfg : TokenConfig} {s s' : Sessions} {e : SessionEvent}

/-- The open ends of a family: rows that are not superseded and calls about to insert one. -/
def ends (s : Sessions) (familyId : Uuid) : Nat :=
  s.db.live s.superseded familyId + s.calls.countP (·.opens familyId)

/-- The condition on a step: the revoking update of a `rotate` is not the second one of its row. -/
def SupersedesOnce (s : Sessions) : SessionEvent → Prop
  | .proceed i env =>
    match s.calls[i]? with
    | some (.rotateRevoke _ _ stored _) => env.fault = none → stored.id ∉ s.superseded
    | _ => True
  | _ => True

instance (s : Sessions) (e : SessionEvent) : Decidable (s.SupersedesOnce e) := by
  unfold SupersedesOnce
  split
  · split <;> infer_instance
  · infer_instance

lemma SupersedesOnce.notMem {i : Nat} {env : TokenEnv} {token : RefreshJwt}
    {context : RequestContext} {stored : RefreshToken} {user : AuthenticatedUser}
    (h : s.SupersedesOnce (.proceed i env))
    (hcall : s.calls[i]? = some (.rotateRevoke token context stored user))
    (hfault : env.fault = none) : stored.id ∉ s.superseded := by
  rw [SupersedesOnce, hcall] at h
  exact h hfault

/-- What the steps that meet the condition keep: rows are superseded once, as often as a rotation
passes, and a family has one open end. -/
structure Single (s : Sessions) : Prop where
  nodup : s.superseded.Nodup
  passed : ∀ token, s.calls.countP (·.passed token) ≤ s.superseded.count token.payload.jti
  ends : ∀ familyId, s.ends familyId ≤ 1

lemma single_initial (users : Table User) : (initial users).Single :=
  ⟨List.nodup_nil, fun _ => le_rfl, fun _ => Nat.zero_le 1⟩

/-! ### One step -/

/-- A new call that neither inserts a row nor has passed. -/
lemma Single.push {c : TokenCall} (hs : s.Single) (hpassed : ∀ token, c.passed token = false)
    (hopens : ∀ F, c.opens F = false) : ({ s with calls := s.calls ++ [c] } : Sessions).Single where
  nodup := hs.nodup
  passed token := by simpa [hpassed token] using hs.passed token
  ends F := by simpa [Sessions.ends, hopens F] using hs.ends F

/-- A login opens the first end of its family. -/
lemma Single.issue {user : AuthenticatedUser} {context : RequestContext} {familyId : Uuid}
    (hs : s.Single) (hconsistent : s.Consistent) (hfamily : familyId ∉ s.families) :
    ({ s with
      families := s.families ++ [familyId]
      calls := s.calls ++ [.issue user context familyId] } : Sessions).Single where
  nodup := hs.nodup
  passed token := by simpa [TokenCall.passed] using hs.passed token
  ends F := by
    have hends := hs.ends F
    have hnew : (TokenCall.issue user context familyId).opens F = decide (familyId = F) := rfl
    simp only [Sessions.ends, List.countP_append, List.countP_singleton, hnew,
      decide_eq_true_eq] at hends ⊢
    split
    · next hF =>
      subst hF
      have hlive : s.db.live s.superseded familyId = 0 := by
        rw [TokenDb.live, List.countP_eq_zero]
        intro r hr hlive
        simp only [Bool.and_eq_true, decide_eq_true_eq] at hlive
        obtain ⟨t, ht, hF⟩ := hconsistent.rows r hr
        exact hfamily (hlive.1 ▸ hF ▸ hconsistent.signed t ht)
      have hcalls : s.calls.countP (·.opens familyId) = 0 := by
        rw [List.countP_eq_zero]
        intro c hc hopens
        cases c with
        | issue _ _ F =>
          have hF : F = familyId := of_decide_eq_true hopens
          exact hfamily (hF ▸ (hconsistent.opening _ hc F rfl).1)
        | rotateIssue _ _ _ F =>
          have hF : F = familyId := of_decide_eq_true hopens
          obtain ⟨t, ht, hknown⟩ := hconsistent.family _ hc F rfl
          exact hfamily (hF ▸ hknown ▸ hconsistent.signed t ht)
        | _ => cases hopens
      omega
    · omega

lemma Single.proceed {i : Nat} {env : TokenEnv} {call call' : TokenCall} {db : TokenDb}
    {new : List RefreshJwt} (hs : s.Single) (hconsistent : s.Consistent)
    (hcall : s.calls[i]? = some call)
    (h : TokenCall.Executes cfg env s.db call db new call')
    (honce : s.SupersedesOnce (.proceed i env)) :
    ({ s with
      db
      signed := s.signed ++ new
      superseded := s.superseded ++ call.supersedes call'
      calls := s.calls.set i call' } : Sessions).Single := by
  have hmem := List.mem_of_getElem? hcall
  constructor
  case nodup =>
    cases h with
    | superseded hfault _ =>
      refine List.nodup_append.mpr ⟨hs.nodup, List.nodup_singleton _, ?_⟩
      rintro id hid _ hstored rfl
      obtain rfl := List.mem_singleton.mp hstored
      exact honce.notMem hcall hfault hid
    | @failed call _ => cases call <;> simpa [TokenCall.supersedes] using hs.nodup
    | _ => simpa [TokenCall.supersedes] using hs.nodup
  case passed =>
    intro token
    have hpassed := hs.passed token
    have hkept (hp : call'.passed token → call.passed token) :
        (s.calls.set i call').countP (·.passed token) ≤
          (s.superseded ++ call.supersedes call').count token.payload.jti := by
      have hle := countP_set_le (p := fun c => c.passed token) hcall hp
      rw [List.count_append]
      omega
    cases h with
    | @superseded t context stored user _ _ _ =>
      have hset := countP_set_add (p := fun c => c.passed token)
        (a := .rotateIssue t context user stored.familyId) hcall
      have hid := (hconsistent.stored _ hmem t stored rfl).1
      have hold : (TokenCall.rotateRevoke t context stored user).passed token = false := rfl
      have hnew : (TokenCall.rotateIssue t context user stored.familyId).passed token =
        decide (t = token) := rfl
      simp only [hold, hnew, decide_eq_true_eq, Bool.false_eq_true, if_false] at hset
      simp only [TokenCall.supersedes, List.count_append, List.count_singleton, beq_iff_eq]
      split at hset
      · next heq =>
        rw [if_pos (heq ▸ hid)]
        omega
      · omega
    | rotated _ => exact hkept id
    | finished => exact hkept id
    | _ => exact hkept fun hp => by cases hp
  case ends =>
    intro F
    have hset := countP_set_add (p := fun c => c.opens F) (a := call') hcall
    have hlive := h.live s.superseded F
      fun token context stored user hc hfault =>
        ⟨honce.notMem (hc ▸ hcall) hfault,
          (hconsistent.stored call hmem token stored (hc ▸ rfl)).2⟩
    have hends := hs.ends F
    unfold Sessions.ends at hends ⊢
    dsimp only
    omega

theorem Steps.single (h : Steps cfg s e s') (hconsistent : s.Consistent)
    (honce : s.SupersedesOnce e) (hs : s.Single) : s'.Single := by
  cases h with
  | issue hfamily => exact hs.issue hconsistent hfamily
  | rotate _ => exact hs.push (fun _ => rfl) fun _ => rfl
  | revoke _ => exact hs.push (fun _ => rfl) fun _ => rfl
  | @refused _ outcome houtcome =>
    refine hs.push (fun token => ?_) fun _ => rfl
    cases outcome with
    | rotated t tokens => exact absurd rfl (houtcome t tokens)
    | _ => rfl
  | proceed hcall _ h => exact hs.proceed hconsistent hcall h honce
  | users => exact ⟨hs.nodup, hs.passed, hs.ends⟩
  | cascade =>
    refine ⟨hs.nodup, hs.passed, fun F => le_trans ?_ (hs.ends F)⟩
    exact Nat.add_le_add_right (List.Sublist.countP_le List.filter_sublist) _

/-! ### Whole runs -/

/-- In every run in which no row is superseded a second time, a refresh token is good for at most
one new pair, and a family never has two rows that are not revoked. -/
theorem single_use (cfg : TokenConfig) (users : Table User) {es : List SessionEvent} {s : Sessions}
    (h : exec (step cfg) (initial users) es = some s)
    (honce : Guarded (step cfg) SupersedesOnce (initial users) es) :
    (∀ token, s.calls.countP (·.gotPair token) ≤ 1) ∧
      ∀ familyId, s.db.refreshTokens.rows.countP
        (fun r => r.familyId = familyId ∧ r.revokedAt = none) ≤ 1 := by
  have key : s.Consistent ∧ s.Single :=
    exec_guarded_invariant (step cfg) (I := fun s => s.Consistent ∧ s.Single)
      (fun _ _ _ ⟨hc, hs⟩ ho ht =>
        ⟨(step_cases ht).consistent hc, (step_cases ht).single hc ho hs⟩)
      ⟨consistent_initial users, single_initial users⟩ honce h
  obtain ⟨hconsistent, hsingle⟩ := key
  constructor
  · intro token
    calc s.calls.countP (·.gotPair token)
        ≤ s.calls.countP (·.passed token) :=
          List.countP_mono_left fun c _ hc => TokenCall.passed_of_gotPair hc
      _ ≤ s.superseded.count token.payload.jti := hsingle.passed token
      _ ≤ 1 := List.nodup_iff_count_le_one.mp hsingle.nodup _
  · intro F
    calc s.db.refreshTokens.rows.countP (fun r => r.familyId = F ∧ r.revokedAt = none)
        ≤ s.db.live s.superseded F := by
          refine List.countP_mono_left fun r hr hrow => ?_
          simp only [decide_eq_true_eq, Bool.and_eq_true] at hrow ⊢
          exact ⟨hrow.1, fun hid => hconsistent.revoked r hr hid hrow.2⟩
      _ ≤ s.ends F := Nat.le_add_right _ _
      _ ≤ 1 := hsingle.ends F

/-- A customer logs in and refreshes the session, then refreshes it with the new token. -/
def refreshRun : List SessionEvent :=
  [.issue Seed.session Seed.context 900, .proceed 0 (Seed.tokenEnv 1),
    .rotate (Seed.token 1) Seed.context 2, .proceed 1 (Seed.tokenEnv 2),
    .proceed 1 (Seed.tokenEnv 3), .proceed 1 (Seed.tokenEnv 4), .proceed 1 (Seed.tokenEnv 5),
    .rotate (Seed.token 5) Seed.context 6, .proceed 2 (Seed.tokenEnv 6),
    .proceed 2 (Seed.tokenEnv 7), .proceed 2 (Seed.tokenEnv 8), .proceed 2 (Seed.tokenEnv 9)]

theorem single_use_refresh :
    ∃ s, exec (step Seed.tokenConfig) (initial Seed.users) refreshRun = some s ∧
      s.calls.countP (·.gotPair (Seed.token 5)) = 1 ∧
      s.db.refreshTokens.rows.countP (fun r => r.familyId = 900 ∧ r.revokedAt = none) ≤ 1 := by
  have hrun : (exec (step Seed.tokenConfig) (initial Seed.users) refreshRun).any fun s =>
      s.calls.countP (·.gotPair (Seed.token 5)) = 1 := by decide
  obtain ⟨s, hs, hone⟩ := exists_of_any hrun
  exact ⟨s, hs, hone,
    (single_use Seed.tokenConfig Seed.users hs (by decide)).2 900⟩

/-- A client and a thief present the same token: both rotations find it unrevoked, and both get a
new pair. -/
def stolenRun : List SessionEvent :=
  [.issue Seed.session Seed.context 900, .proceed 0 (Seed.tokenEnv 1),
    .rotate (Seed.token 1) Seed.context 2, .rotate (Seed.token 1) Seed.context 2,
    .proceed 1 (Seed.tokenEnv 3), .proceed 2 (Seed.tokenEnv 4),
    .proceed 1 (Seed.tokenEnv 5), .proceed 2 (Seed.tokenEnv 6),
    .proceed 1 (Seed.tokenEnv 7), .proceed 2 (Seed.tokenEnv 8),
    .proceed 1 (Seed.tokenEnv 9), .proceed 2 (Seed.tokenEnv 10)]

theorem stolen_token_used :
    ¬ ∀ cfg users es s, exec (step cfg) (initial users) es = some s →
      (∀ token, s.calls.countP (·.gotPair token) ≤ 1) ∧
        ∀ familyId, s.db.refreshTokens.rows.countP
          (fun r => r.familyId = familyId ∧ r.revokedAt = none) ≤ 1 := by
  intro hall
  have hrun : (exec (step Seed.tokenConfig) (initial Seed.users) stolenRun).any fun s =>
      s.calls.countP (·.gotPair (Seed.token 1)) = 2 := by decide
  obtain ⟨s, hs, htwo⟩ := exists_of_any hrun
  have hle := (hall _ _ _ s hs).1 (Seed.token 1)
  rw [htwo] at hle
  omega

end Sessions

end SupportPlatform
