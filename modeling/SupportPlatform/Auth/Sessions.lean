import SupportPlatform.Auth.TokenService
import SupportPlatform.Core.Machine

/-!
# Sessions

Any number of `TokenService` calls over the same tables, interleaved statement by statement with
one another and with what other services do to the users. A token verifies only if it was signed
here, and a generated uuid is one that was never used.
-/

namespace SupportPlatform

/-- `superseded` are the ids of the rows that a `rotate` has revoked so far, a history variable
that no call reads. -/
structure Sessions where
  db : TokenDb
  signed : List RefreshJwt
  families : List Uuid
  superseded : List Uuid
  calls : List TokenCall

inductive SessionEvent where
  | issue (user : AuthenticatedUser) (context : RequestContext) (familyId : Uuid)
  | rotate (token : RefreshJwt) (context : RequestContext) (now : Time)
  | revoke (token : RefreshJwt) (now : Time)
  | proceed (i : Nat) (env : TokenEnv)
  | userCreated (user : User)
  | userUpdated (id : Uuid) (isActive : Bool)
  | usersRemoved (organizationId : Uuid)

namespace TokenCall

/-- The call signs a token in its next step. -/
def signs : TokenCall → Bool
  | .issue _ _ _ | .rotateIssue _ _ _ _ => true
  | _ => false

/-- The row that a step of the call has superseded. -/
def supersedes : TokenCall → TokenCall → List Uuid
  | .rotateRevoke _ _ stored _, .rotateIssue _ _ _ _ => [stored.id]
  | _, _ => []

end TokenCall

namespace Sessions

/-- Nobody has a token or is asking for one. -/
def initial (users : Table User) : Sessions := ⟨⟨users, .empty⟩, [], [], [], []⟩

/-- `verifyAsync`: the token was signed with the secret of the service and has not expired. -/
def verifies (s : Sessions) (token : RefreshJwt) (now : Time) : Bool :=
  token ∈ s.signed && now < token.exp

lemma signed_of_verifies {s : Sessions} {token : RefreshJwt} {now : Time}
    (h : s.verifies token now) : token ∈ s.signed := by
  simp only [verifies, Bool.and_eq_true, decide_eq_true_eq] at h
  exact h.1

/-- A uuid that no token was signed with and no row was created with. -/
def fresh (s : Sessions) (jti : Uuid) : Bool :=
  jti ∉ s.signed.map (·.payload.jti) && jti ∉ s.db.refreshTokens.keys

/-- One step; `none` when the event is not enabled. -/
def step (cfg : TokenConfig) (s : Sessions) : SessionEvent → Option Sessions
  | .issue user context familyId =>
    if familyId ∈ s.families then none
    else some { s with
      families := s.families ++ [familyId]
      calls := s.calls ++ [.issue user context familyId] }
  | .rotate token context now =>
    some { s with
      calls := s.calls ++ [
        if s.verifies token now then .rotate token context
        else .done (.failed (.unauthorized "Invalid refresh token"))] }
  | .revoke token now =>
    some { s with
      calls := s.calls ++ [if s.verifies token now then .revoke token else .done .revoked] }
  | .proceed i env =>
    s.calls[i]?.bind fun call =>
      if call.signs && !s.fresh env.jti then none
      else
        let (db, signed, call') := call.exec cfg env s.db
        some { s with
          db
          signed := s.signed ++ signed
          superseded := s.superseded ++ call.supersedes call'
          calls := s.calls.set i call' }
  | .userCreated user =>
    (s.db.users.insert? user).map fun users => { s with db := { s.db with users } }
  | .userUpdated id isActive =>
    some { s with
      db := { s.db with
        users := s.db.users.modify id (fun u => { u with isActive }) fun _ => rfl } }
  | .usersRemoved organizationId =>
    some { s with
      db :=
        { users := s.db.users.removeWhere (·.organizationId = organizationId)
          -- `ON DELETE CASCADE`
          refreshTokens := s.db.refreshTokens.removeWhere fun r =>
            s.db.users.column User.organizationId r.userId = some organizationId } }

/-! ### What a step can do -/

/-- All that a step can do. -/
inductive Steps (cfg : TokenConfig) (s : Sessions) : SessionEvent → Sessions → Prop
  | issue {user context familyId} (hfamily : familyId ∉ s.families) :
    Steps cfg s (.issue user context familyId)
      { s with
        families := s.families ++ [familyId]
        calls := s.calls ++ [.issue user context familyId] }
  | rotate {token context now} (hsigned : token ∈ s.signed) :
    Steps cfg s (.rotate token context now) { s with calls := s.calls ++ [.rotate token context] }
  | revoke {token now} (hsigned : token ∈ s.signed) :
    Steps cfg s (.revoke token now) { s with calls := s.calls ++ [.revoke token] }
  | refused {e outcome} (houtcome : ∀ token tokens, outcome ≠ .rotated token tokens) :
    Steps cfg s e { s with calls := s.calls ++ [.done outcome] }
  | proceed {i env call db signed call'} (hcall : s.calls[i]? = some call)
    (hfresh : call.signs → s.fresh env.jti)
    (h : TokenCall.Executes cfg env s.db call db signed call') :
    Steps cfg s (.proceed i env)
      { s with
        db
        signed := s.signed ++ signed
        superseded := s.superseded ++ call.supersedes call'
        calls := s.calls.set i call' }
  | users {e users} : Steps cfg s e { s with db := { s.db with users } }
  | cascade {e users} {p : RefreshToken → Bool} :
    Steps cfg s e
      { s with db := { users, refreshTokens := s.db.refreshTokens.removeWhere p } }

theorem step_cases {cfg : TokenConfig} {s s' : Sessions} {e : SessionEvent}
    (h : step cfg s e = some s') : Steps cfg s e s' := by
  cases e with
  | issue user context familyId =>
    rw [step] at h
    split_ifs at h with hfamily
    cases h
    exact .issue hfamily
  | rotate token context now =>
    cases h
    split_ifs with hverifies
    · exact .rotate (signed_of_verifies hverifies)
    · exact .refused fun _ _ heq => by cases heq
  | revoke token now =>
    cases h
    split_ifs with hverifies
    · exact .revoke (signed_of_verifies hverifies)
    · exact .refused fun _ _ heq => by cases heq
  | proceed i env =>
    obtain ⟨call, hcall, h⟩ := Option.bind_eq_some_iff.mp h
    split_ifs at h with hfresh
    cases h
    refine .proceed hcall (fun hsigns => ?_) (TokenCall.exec_cases rfl)
    simpa [hsigns] using hfresh
  | userCreated user =>
    obtain ⟨users, -, rfl⟩ := Option.map_eq_some_iff.mp h
    exact .users
  | userUpdated id isActive =>
    cases h
    exact .users
  | usersRemoved organizationId =>
    cases h
    exact .cascade

/-! ### What tokens, rows and calls have in common -/

end Sessions

namespace TokenCall

/-- The family a login is about to open. -/
def opening? : TokenCall → Option Uuid
  | .issue _ _ familyId => some familyId
  | _ => none

/-- The family that any other call has come upon. -/
def family? : TokenCall → Option Uuid
  | .rotateReuse _ familyId | .rotateIssue _ _ _ familyId => some familyId
  | .rotateUser _ _ stored | .rotateRevoke _ _ stored _ => some stored.familyId
  | .revoke token => some token.payload.familyId
  | _ => none

/-- The row that a `rotate` goes by, with the token presented. -/
def stored? : TokenCall → Option (RefreshJwt × RefreshToken)
  | .rotateUser token _ stored | .rotateRevoke token _ stored _ => some (token, stored)
  | _ => none

variable {cfg : TokenConfig} {env : TokenEnv} {db db' : TokenDb} {call call' : TokenCall}
  {new : List RefreshJwt}

lemma evolves_revokeFamily (env : TokenEnv) (db : TokenDb) (familyId : Uuid) :
    Table.Evolves RefreshToken.familyId db.refreshTokens
      (TokenService.revokeFamily env db familyId).refreshTokens := by
  simp only [TokenService.revokeFamily]
  exact .modifyWhere _ fun _ => rfl

lemma Executes.opening? (h : Executes cfg env db call db' new call') :
    call'.opening? = none := by
  cases h <;> rfl

lemma Executes.family? (h : Executes cfg env db call db' new call') {F : Uuid}
    (hF : F ∈ call'.family?) : F ∈ call.family? ∨ ∃ r ∈ db.refreshTokens.rows, r.familyId = F := by
  cases h with
  | reused hfind _ _ | found hfind _ _ _ =>
    cases hF
    exact .inr ⟨_, (Table.find?_eq_some.mp hfind).1, rfl⟩
  | active _ _ => exact .inl hF
  | superseded _ _ => exact .inl hF
  | _ => cases hF

lemma Executes.stored? (h : Executes cfg env db call db' new call') {token : RefreshJwt}
    {stored : RefreshToken} (hs : (token, stored) ∈ call'.stored?) :
    (token, stored) ∈ call.stored? ∨
      db.refreshTokens.find? token.payload.jti = some stored := by
  cases h with
  | found hfind _ _ _ =>
    cases hs
    exact .inr hfind
  | active _ _ => exact .inl hs
  | _ => cases hs

/-- What a step signs is a token of the family of the call. -/
lemma Executes.signed (h : Executes cfg env db call db' new call') {t : RefreshJwt}
    (ht : t ∈ new) : t.payload.jti = env.jti ∧ call.signs ∧
      (t.payload.familyId ∈ call.opening? ∨ t.payload.familyId ∈ call.family?) := by
  cases h with
  | issueFailed | issued _ =>
    obtain rfl := List.mem_singleton.mp ht
    exact ⟨rfl, rfl, .inl rfl⟩
  | rotateFailed | rotated _ =>
    obtain rfl := List.mem_singleton.mp ht
    exact ⟨rfl, rfl, .inr rfl⟩
  | _ => cases ht

lemma Executes.evolves (h : Executes cfg env db call db' new call') :
    Table.Evolves RefreshToken.familyId db.refreshTokens db'.refreshTokens := by
  cases h with
  | issued h | rotated h =>
    obtain ⟨_, _, -, -, hins, rfl⟩ := h
    exact .of_insert? hins
  | detected => exact evolves_revokeFamily env db _
  | superseded _ _ =>
    dsimp only
    exact .modify _ fun _ => rfl
  | revoked => exact evolves_revokeFamily env db _
  | _ => exact .refl _ _

/-- A row is either one from before, revoked if it was, or the one of a token just signed. -/
lemma Executes.rows (h : Executes cfg env db call db' new call') {r : RefreshToken}
    (hr : r ∈ db'.refreshTokens.rows) :
    (∃ a ∈ db.refreshTokens.rows, a.id = r.id ∧ a.familyId = r.familyId ∧
        (a.revokedAt ≠ none → r.revokedAt ≠ none)) ∨
      ∃ t ∈ new, t.payload.jti = r.id ∧ t.payload.familyId = r.familyId := by
  have modified {p : RefreshToken → Bool} (hr : r ∈ db.refreshTokens.rows.map fun a =>
      if p a then RefreshToken.revoke env.now a else a) : ∃ a ∈ db.refreshTokens.rows,
      a.id = r.id ∧ a.familyId = r.familyId ∧ (a.revokedAt ≠ none → r.revokedAt ≠ none) := by
    obtain ⟨a, ha, rfl⟩ := List.mem_map.mp hr
    refine ⟨a, ha, ?_⟩
    split
    · exact ⟨rfl, rfl, fun _ h => by cases h⟩
    · exact ⟨rfl, rfl, id⟩
  cases h with
  | issued h | rotated h =>
    obtain ⟨_, _, -, -, hins, rfl⟩ := h
    rcases (Table.mem_insert? hins).mp hr with hr | rfl
    · exact .inl ⟨r, hr, rfl, rfl, id⟩
    · exact .inr ⟨_, List.mem_cons_self, rfl, rfl⟩
  | detected => exact .inl (modified hr)
  | superseded _ _ => exact .inl (modified hr)
  | revoked => exact .inl (modified hr)
  | _ => exact .inl ⟨r, hr, rfl, rfl, id⟩

lemma Executes.supersedes (h : Executes cfg env db call db' new call') :
    call.supersedes call' = [] ∨
      ∃ token context stored user row, call = .rotateRevoke token context stored user ∧
        call' = .rotateIssue token context user stored.familyId ∧ new = [] ∧
        call.supersedes call' = [stored.id] ∧
        db.refreshTokens.find? stored.id = some row ∧
        db' = { db with
          refreshTokens := db.refreshTokens.modify stored.id (RefreshToken.revoke env.now)
            (RefreshToken.key_revoke env.now) } := by
  cases h with
  | superseded _ hfind => exact .inr ⟨_, _, _, _, _, rfl, rfl, rfl, rfl, hfind, rfl⟩
  | finished => exact .inl rfl
  | @failed call _ => exact .inl (by cases call <;> rfl)
  | _ => exact .inl rfl

end TokenCall

namespace Sessions

/-- A token of the family has been signed. -/
def Known (s : Sessions) (familyId : Uuid) : Prop :=
  ∃ t ∈ s.signed, t.payload.familyId = familyId

/-- Rows and calls are of families with a token, except the logins that are about to sign the
first one; and what a `rotate` has read of a row is still so. -/
structure Consistent (s : Sessions) : Prop where
  signed : ∀ t ∈ s.signed, t.payload.familyId ∈ s.families
  rows : ∀ r ∈ s.db.refreshTokens.rows, s.Known r.familyId
  opening : ∀ c ∈ s.calls, ∀ F ∈ c.opening?, F ∈ s.families ∧ ¬ s.Known F
  once : ∀ F, s.calls.countP (fun c => c.opening? = some F) ≤ 1
  family : ∀ c ∈ s.calls, ∀ F ∈ c.family?, s.Known F
  stored : ∀ c ∈ s.calls, ∀ token stored, (token, stored) ∈ c.stored? →
    stored.id = token.payload.jti ∧
      s.db.refreshTokens.Names RefreshToken.familyId stored.id stored.familyId
  superseded : ∀ id ∈ s.superseded, id ∈ s.db.refreshTokens.keys
  revoked : ∀ r ∈ s.db.refreshTokens.rows, r.id ∈ s.superseded → r.revokedAt ≠ none

lemma consistent_initial (users : Table User) : (initial users).Consistent := by
  constructor
  case once => exact fun F => Nat.zero_le 1
  all_goals intro _ h; cases h

section Consistent

variable {cfg : TokenConfig} {s s' : Sessions} {e : SessionEvent}

/-- A new call of an old family, or of none, changes nothing. -/
lemma Consistent.push {c : TokenCall} (hs : s.Consistent) (hopening : c.opening? = none)
    (hfamily : ∀ F ∈ c.family?, s.Known F) (hstored : c.stored? = none) :
    ({ s with calls := s.calls ++ [c] } : Sessions).Consistent where
  signed := hs.signed
  rows := hs.rows
  opening c' hc' F hF := by
    rcases List.mem_append.mp hc' with hc' | hc'
    · exact hs.opening c' hc' F hF
    · obtain rfl := List.mem_singleton.mp hc'
      rw [hopening] at hF
      cases hF
  once F := by
    simp only [List.countP_append, List.countP_singleton, hopening, reduceCtorEq, decide_false,
      Bool.false_eq_true, if_false, Nat.add_zero]
    exact hs.once F
  family c' hc' F hF := by
    rcases List.mem_append.mp hc' with hc' | hc'
    · exact hs.family c' hc' F hF
    · obtain rfl := List.mem_singleton.mp hc'
      exact hfamily F hF
  stored c' hc' token stored hmem := by
    rcases List.mem_append.mp hc' with hc' | hc'
    · exact hs.stored c' hc' token stored hmem
    · obtain rfl := List.mem_singleton.mp hc'
      rw [hstored] at hmem
      cases hmem
  superseded := hs.superseded
  revoked := hs.revoked

/-- A login opens a family that nothing is of. -/
lemma Consistent.issue {user : AuthenticatedUser} {context : RequestContext} {familyId : Uuid}
    (hs : s.Consistent) (hfamily : familyId ∉ s.families) :
    ({ s with
      families := s.families ++ [familyId]
      calls := s.calls ++ [.issue user context familyId] } : Sessions).Consistent where
  signed t ht := List.mem_append_left _ (hs.signed t ht)
  rows := hs.rows
  opening c hc F hF := by
    rcases List.mem_append.mp hc with hc | hc
    · exact ⟨List.mem_append_left _ (hs.opening c hc F hF).1, (hs.opening c hc F hF).2⟩
    · obtain rfl := List.mem_singleton.mp hc
      cases hF
      refine ⟨List.mem_append_right _ (List.mem_singleton_self familyId), ?_⟩
      rintro ⟨t, ht, rfl⟩
      exact hfamily (hs.signed t ht)
  once F := by
    rw [List.countP_append, List.countP_singleton]
    by_cases hF : F = familyId
    · have hnone : s.calls.countP (fun c => c.opening? = some F) = 0 := by
        rw [List.countP_eq_zero]
        intro c hc hopening
        exact hfamily (hF ▸ (hs.opening c hc F (of_decide_eq_true hopening)).1)
      rw [hnone]
      split <;> omega
    · have hne : (TokenCall.issue user context familyId).opening? ≠ some F := by
        simpa [TokenCall.opening?] using Ne.symm hF
      simpa [hne] using hs.once F
  family c hc F hF := by
    rcases List.mem_append.mp hc with hc | hc
    · exact hs.family c hc F hF
    · obtain rfl := List.mem_singleton.mp hc
      cases hF
  stored c hc token stored hmem := by
    rcases List.mem_append.mp hc with hc | hc
    · exact hs.stored c hc token stored hmem
    · obtain rfl := List.mem_singleton.mp hc
      cases hmem
  superseded := hs.superseded
  revoked := hs.revoked

lemma Consistent.cascade {users : Table User} {p : RefreshToken → Bool} (hs : s.Consistent) :
    ({ s with
      db := { users, refreshTokens := s.db.refreshTokens.removeWhere p } } : Sessions).Consistent
    where
  signed := hs.signed
  rows r hr := hs.rows r (List.mem_of_mem_filter hr)
  opening := hs.opening
  once := hs.once
  family := hs.family
  stored c hc token stored hmem :=
    ⟨(hs.stored c hc token stored hmem).1,
      (Table.Evolves.removeWhere _ p).names (hs.stored c hc token stored hmem).2⟩
  superseded id hid := Table.mem_keys_removeWhere.mpr (hs.superseded id hid)
  revoked r hr := hs.revoked r (List.mem_of_mem_filter hr)

lemma Consistent.proceed {i : Nat} {env : TokenEnv} {call call' : TokenCall} {db : TokenDb}
    {new : List RefreshJwt} (hs : s.Consistent) (hcall : s.calls[i]? = some call)
    (hfresh : call.signs → s.fresh env.jti)
    (h : TokenCall.Executes cfg env s.db call db new call') :
    ({ s with
      db
      signed := s.signed ++ new
      superseded := s.superseded ++ call.supersedes call'
      calls := s.calls.set i call' } : Sessions).Consistent := by
  have hmem := List.mem_of_getElem? hcall
  have hev := h.evolves
  have hknown : ∀ F, s.Known F → ∃ t ∈ s.signed ++ new, t.payload.familyId = F :=
    fun F ⟨t, ht, hF⟩ => ⟨t, List.mem_append_left _ ht, hF⟩
  constructor
  case signed =>
    intro t ht
    rcases List.mem_append.mp ht with ht | ht
    · exact hs.signed t ht
    · rcases (h.signed ht).2.2 with hF | hF
      · exact (hs.opening call hmem _ hF).1
      · obtain ⟨t', ht', heq⟩ := hs.family call hmem _ hF
        exact heq ▸ hs.signed t' ht'
  case rows =>
    intro r hr
    rcases h.rows hr with ⟨a, ha, -, hfamily, -⟩ | ⟨t, ht, -, hfamily⟩
    · exact hknown _ (hfamily ▸ hs.rows a ha)
    · exact ⟨t, List.mem_append_right _ ht, hfamily⟩
  case opening =>
    intro c hc F hF
    rcases List.mem_or_eq_of_mem_set hc with hc' | rfl
    · refine ⟨(hs.opening c hc' F hF).1, ?_⟩
      rintro ⟨t, ht, rfl⟩
      rcases List.mem_append.mp ht with ht | ht
      · exact (hs.opening c hc' _ hF).2 ⟨t, ht, rfl⟩
      · rcases (h.signed ht).2.2 with hopening | hfamily
        · -- the call was the only one opening the family, and is over now
          have hset := Machine.countP_set_add (p := fun c => decide (c.opening? =
            some t.payload.familyId)) (a := call') hcall
          have honce := hs.once t.payload.familyId
          simp only [Option.mem_def.mp hopening, h.opening?, decide_true, if_true, reduceCtorEq,
            decide_false, Bool.false_eq_true, if_false] at hset
          have hzero : (s.calls.set i call').countP
              (fun c => c.opening? = some t.payload.familyId) = 0 := by omega
          exact List.countP_eq_zero.mp hzero c hc (decide_eq_true hF)
        · exact (hs.opening c hc' _ hF).2 (hs.family call hmem _ hfamily)
    · rw [h.opening?] at hF
      cases hF
  case once =>
    intro F
    refine (Machine.countP_set_le hcall fun hF => ?_).trans (hs.once F)
    simp [h.opening?] at hF
  case family =>
    intro c hc F hF
    rcases List.mem_or_eq_of_mem_set hc with hc | rfl
    · exact hknown F (hs.family c hc F hF)
    · rcases h.family? hF with hF | ⟨r, hr, rfl⟩
      · exact hknown F (hs.family call hmem F hF)
      · exact hknown _ (hs.rows r hr)
  case stored =>
    intro c hc token stored hst
    have old (hst : (token, stored) ∈ call.stored? ∨ ∃ c ∈ s.calls, (token, stored) ∈ c.stored?) :
        stored.id = token.payload.jti ∧
          db.refreshTokens.Names RefreshToken.familyId stored.id stored.familyId := by
      rcases hst with hst | ⟨c, hc, hst⟩
      · exact ⟨(hs.stored call hmem _ _ hst).1, hev.names (hs.stored call hmem _ _ hst).2⟩
      · exact ⟨(hs.stored c hc _ _ hst).1, hev.names (hs.stored c hc _ _ hst).2⟩
    rcases List.mem_or_eq_of_mem_set hc with hc | rfl
    · exact old (.inr ⟨c, hc, hst⟩)
    · rcases h.stored? hst with hst | hfind
      · exact old (.inl hst)
      · obtain ⟨hrow, hid⟩ := Table.find?_eq_some.mp hfind
        exact ⟨hid, hev.names (Table.names_of_mem RefreshToken.familyId hrow)⟩
  case superseded =>
    intro id hid
    rcases List.mem_append.mp hid with hid | hid
    · exact hev.1 id (hs.superseded id hid)
    · rcases h.supersedes with hnone | ⟨_, _, stored, _, row, -, -, -, hone, hfind, -⟩
      · rw [hnone] at hid
        cases hid
      · rw [hone] at hid
        obtain rfl := List.mem_singleton.mp hid
        obtain ⟨hrow, hkey⟩ := Table.find?_eq_some.mp hfind
        exact hev.1 _ (hkey ▸ Table.key_mem_keys hrow)
  case revoked =>
    intro r hr hid
    rcases h.rows hr with ⟨a, ha, hkey, -, hrevoked⟩ | ⟨t, ht, hjti, -⟩
    · rcases List.mem_append.mp hid with hold | hnew
      · exact hrevoked (hs.revoked a ha (hkey ▸ hold))
      · rcases h.supersedes with hnone | ⟨_, _, stored, _, row, -, -, -, hone, -, rfl⟩
        · rw [hnone] at hnew
          cases hnew
        · rw [hone] at hnew
          replace hnew := List.mem_singleton.mp hnew
          obtain ⟨b, hb, rfl⟩ := List.mem_map.mp hr
          split
          · exact fun hnone => by cases hnone
          · next hne =>
            rw [if_neg hne] at hnew
            exact absurd hnew (by simpa using hne)
    · have hfree : r.id ∉ s.db.refreshTokens.keys := by
        have := hfresh (h.signed ht).2.1
        simp only [fresh, Bool.and_eq_true, decide_eq_true_eq] at this
        rw [← hjti, (h.signed ht).1]
        exact this.2
      rcases List.mem_append.mp hid with hid | hid
      · exact absurd (hs.superseded r.id hid) hfree
      · rcases h.supersedes with hnone | ⟨_, _, _, _, _, -, -, rfl, -⟩
        · rw [hnone] at hid
          cases hid
        · cases ht

theorem Steps.consistent (h : Steps cfg s e s') (hs : s.Consistent) : s'.Consistent := by
  cases h with
  | issue hfamily => exact hs.issue hfamily
  | rotate hsigned => exact hs.push rfl (fun F hF => by cases hF) rfl
  | revoke hsigned =>
    refine hs.push rfl (fun F hF => ?_) rfl
    cases hF
    exact ⟨_, hsigned, rfl⟩
  | refused _ => exact hs.push rfl (fun F hF => by cases hF) rfl
  | proceed hcall hfresh h => exact hs.proceed hcall hfresh h
  | users => exact ⟨hs.signed, hs.rows, hs.opening, hs.once, hs.family, hs.stored,
      hs.superseded, hs.revoked⟩
  | cascade => exact hs.cascade

lemma consistent_of_exec {users : Table User} {es : List SessionEvent}
    (h : Machine.exec (step cfg) (initial users) es = some s) : s.Consistent :=
  Machine.exec_invariant (step cfg) (fun _ _ _ hs h => (step_cases h).consistent hs)
    (consistent_initial users) h

end Consistent

end Sessions

/-! ### A session of the seeded customer -/

namespace Seed

def tokenConfig : TokenConfig := ⟨"15m", "7d", fun token => toString token.payload.jti⟩

def session : AuthenticatedUser := ⟨13, "customer@acme.test", .customer, 1⟩

def agentSession : AuthenticatedUser := ⟨12, "agent@acme.test", .agent, 1⟩

def context : RequestContext := ⟨none, none⟩

/-- The environment of the `n`-th step when nothing fails. -/
def tokenEnv (n : Nat) : TokenEnv := ⟨n, 1000 + n, 604800 + n, none, none, none⟩

/-- The token of family 900 signed at the `n`-th step. -/
def token (n : Nat) : RefreshJwt := ⟨⟨13, 1000 + n, 900⟩, n, 604800 + n⟩

end Seed

end SupportPlatform
