import SupportPlatform.Auth.Sessions

/-!
# Revocation of a family

Logout and reuse detection revoke the rows that a family has at that instant. A rotation that is
past its check goes on all the same and gives the family a new row.
-/

namespace SupportPlatform

namespace TokenCall

/-- A `rotate` in the family that has found its row unrevoked and has not ended. -/
def pastCheck (familyId : Uuid) : TokenCall → Bool
  | .rotateUser _ _ stored | .rotateRevoke _ _ stored _ => stored.familyId = familyId
  | .rotateIssue _ _ _ F => F = familyId
  | _ => false

/-- The family that the next step of the call revokes as a whole, if nothing fails. -/
def revokes? : TokenCall → Option Uuid
  | .rotateReuse _ familyId => some familyId
  | .revoke token => some token.payload.familyId
  | _ => none

variable {cfg : TokenConfig} {env : TokenEnv} {db db' : TokenDb} {call call' : TokenCall}
  {new : List RefreshJwt} {F : Uuid}

/-- A call gets past its check with an unrevoked row only. -/
lemma Executes.pastCheck (h : Executes cfg env db call db' new call') (hF : call'.pastCheck F) :
    call.pastCheck F ∨ ∃ r ∈ db.refreshTokens.rows, r.familyId = F ∧ r.revokedAt = none := by
  cases h with
  | found hfind _ hrevoked _ =>
    exact .inr ⟨_, (Table.find?_eq_some.mp hfind).1, of_decide_eq_true hF, hrevoked⟩
  | active _ _ => exact .inl hF
  | superseded _ _ => exact .inl hF
  | _ => cases hF

/-- A call that signs for the family opens it or is past its check. -/
lemma pastCheck_of_signs (hsigns : call.signs) (hF : F ∈ call.family?) : call.pastCheck F := by
  cases call with
  | rotateIssue =>
    cases hF
    exact decide_eq_true rfl
  | issue => cases hF
  | _ => cases hsigns

lemma family?_of_revokes? (h : F ∈ call.revokes?) : F ∈ call.family? := by
  cases call with
  | rotateReuse => exact h
  | revoke => exact h
  | _ => cases h

lemma exec_of_revokes? (cfg : TokenConfig) (db : TokenDb) (hF : F ∈ call.revokes?)
    (hfault : env.fault = none) : ∃ outcome,
      call.exec cfg env db = (TokenService.revokeFamily env db F, [], .done outcome) := by
  cases call with
  | rotateReuse =>
    cases hF
    exact ⟨_, by rw [exec, hfault]⟩
  | revoke =>
    cases hF
    exact ⟨_, by rw [exec, hfault]⟩
  | _ => cases hF

end TokenCall

namespace Sessions

open Machine

variable {cfg : TokenConfig} {s s' : Sessions} {e : SessionEvent} {F : Uuid}

/-- The family that a step revokes as a whole. -/
def revokes? (s : Sessions) : SessionEvent → Option Uuid
  | .proceed i env =>
    if env.fault = none then s.calls[i]?.bind TokenCall.revokes? else none
  | _ => none

/-- The condition on a step: if it revokes a family, no rotation in it is past its check. -/
def RevokesAtRest (s : Sessions) (e : SessionEvent) : Prop :=
  ∀ F ∈ s.revokes? e, ∀ c ∈ s.calls, c.pastCheck F = false

instance (s : Sessions) (e : SessionEvent) : Decidable (s.RevokesAtRest e) := by
  unfold RevokesAtRest
  infer_instance

/-- The family is over: it has had a token, all its rows are revoked and no rotation in it is past
its check. -/
structure Over (F : Uuid) (s : Sessions) : Prop where
  known : s.Known F
  rows : ∀ r ∈ s.db.refreshTokens.rows, r.familyId = F → r.revokedAt ≠ none
  calls : ∀ c ∈ s.calls, c.pastCheck F = false

/-- A new call that is not past the check. -/
lemma Over.push {c : TokenCall} (hF : s.Over F) (hc : c.pastCheck F = false) :
    ({ s with calls := s.calls ++ [c] } : Sessions).Over F := by
  refine ⟨hF.known, hF.rows, fun c' hc' => ?_⟩
  rcases List.mem_append.mp hc' with hc' | hc'
  · exact hF.calls c' hc'
  · exact List.mem_singleton.mp hc' ▸ hc

/-- What is over stays over: a rotation that starts later finds a revoked row. -/
lemma Over.proceed {i : Nat} {env : TokenEnv} {call call' : TokenCall} {db : TokenDb}
    {new : List RefreshJwt} (hF : s.Over F) (hs : s.Consistent) (hcall : s.calls[i]? = some call)
    (h : TokenCall.Executes cfg env s.db call db new call') :
    ({ s with
      db
      signed := s.signed ++ new
      superseded := s.superseded ++ call.supersedes call'
      calls := s.calls.set i call' } : Sessions).Over F := by
  have hmem := List.mem_of_getElem? hcall
  constructor
  case known =>
    obtain ⟨t, ht, hfamily⟩ := hF.known
    exact ⟨t, List.mem_append_left _ ht, hfamily⟩
  case rows =>
    intro r hr hfamily
    rcases h.rows hr with ⟨a, ha, -, hsame, hrevoked⟩ | ⟨t, ht, -, hsame⟩
    · exact hrevoked (hF.rows a ha (hsame.trans hfamily))
    · obtain ⟨-, hsigns, hopening | hknown⟩ := h.signed ht
      · exact absurd hF.known (hsame.trans hfamily ▸ (hs.opening call hmem _ hopening).2)
      · have hpast := TokenCall.pastCheck_of_signs hsigns (hsame.trans hfamily ▸ hknown)
        rw [hF.calls call hmem] at hpast
        cases hpast
  case calls =>
    intro c hc
    rcases List.mem_or_eq_of_mem_set hc with hc | rfl
    · exact hF.calls c hc
    · by_contra hpast
      rcases h.pastCheck (Bool.eq_true_of_not_eq_false hpast) with hpast | ⟨r, hr, hfamily, hnone⟩
      · rw [hF.calls call hmem] at hpast
        cases hpast
      · exact hF.rows r hr hfamily hnone

theorem Steps.over (h : Steps cfg s e s') (hs : s.Consistent) (hF : s.Over F) : s'.Over F := by
  cases h with
  | issue _ => exact ⟨hF.known, hF.rows, (hF.push rfl).calls⟩
  | rotate _ => exact hF.push rfl
  | revoke _ => exact hF.push rfl
  | refused _ => exact hF.push rfl
  | proceed hcall _ h => exact hF.proceed hs hcall h
  | users => exact ⟨hF.known, hF.rows, hF.calls⟩
  | cascade =>
    exact ⟨hF.known, fun r hr => hF.rows r (List.mem_of_mem_filter hr), hF.calls⟩

/-- A family that is revoked while no rotation in it is past its check is over. -/
lemma over_of_revokes? (h : step cfg s e = some s') (hs : s.Consistent) (hF : F ∈ s.revokes? e)
    (hrest : s.RevokesAtRest e) : s'.Over F := by
  have hcalls := hrest F hF
  cases e with
  | proceed i env =>
    rw [revokes?] at hF
    split_ifs at hF with hfault
    · obtain ⟨call, hcall, hrevokes⟩ := Option.bind_eq_some_iff.mp hF
      obtain ⟨outcome, hexec⟩ := TokenCall.exec_of_revokes? cfg s.db hrevokes hfault
      have hmem := List.mem_of_getElem? hcall
      obtain ⟨t, ht, hfamily⟩ := hs.family call hmem F (TokenCall.family?_of_revokes? hrevokes)
      rw [step, hcall, Option.bind_some, hexec] at h
      split_ifs at h
      cases h
      refine ⟨⟨t, List.mem_append_left _ ht, hfamily⟩,
        fun r hr hr' => TokenService.revokedAt_revokeFamily hr hr', fun c hc => ?_⟩
      rcases List.mem_or_eq_of_mem_set hc with hc | rfl
      · exact hcalls c hc
      · rfl
    · cases hF
  | _ => cases hF

/-! ### Whole runs -/

/-- In every run in which families are revoked only while no rotation in them is past its check, a
revoked family never has an unrevoked row again. -/
theorem revocation_final (cfg : TokenConfig) (users : Table User) {es : List SessionEvent}
    {s : Sessions} (h : exec (step cfg) (initial users) es = some s)
    (hrest : Guarded (step cfg) RevokesAtRest (initial users) es) :
    ∀ fs e gs r, es = fs ++ e :: gs → exec (step cfg) (initial users) fs = some r →
      ∀ F ∈ r.revokes? e, ∀ row ∈ s.db.refreshTokens.rows, row.familyId = F →
        row.revokedAt ≠ none := by
  intro fs e gs r hsplit hr F hF
  have he : r.RevokesAtRest e := (guarded_iff (step cfg) h).mp hrest fs e gs r hsplit hr
  subst hsplit
  obtain ⟨r', hr', hes⟩ := (exec_append (step cfg)).mp h
  cases hr.symm.trans hr'
  obtain ⟨t, ht, hgs⟩ := (exec_cons_eq_some (step cfg)).mp hes
  have hconsistent := consistent_of_exec hr
  have key := exec_invariant (step cfg) (I := fun s => s.Consistent ∧ s.Over F)
    (fun _ _ _ ⟨hc, ho⟩ h => ⟨(step_cases h).consistent hc, (step_cases h).over hc ho⟩)
    ⟨(step_cases ht).consistent hconsistent, over_of_revokes? ht hconsistent hF he⟩ hgs
  exact key.2.rows

/-- A customer logs in and out; the token of the session is refused from then on. -/
def logoutRun : List SessionEvent :=
  [.issue Seed.session Seed.context 900, .proceed 0 (Seed.tokenEnv 1),
    .revoke (Seed.token 1) 2, .proceed 1 (Seed.tokenEnv 2),
    .rotate (Seed.token 1) Seed.context 3, .proceed 2 (Seed.tokenEnv 3),
    .proceed 2 (Seed.tokenEnv 4)]

theorem revocation_final_logout :
    ∃ s, exec (step Seed.tokenConfig) (initial Seed.users) logoutRun = some s ∧
      s.db.refreshTokens.rows.length = 1 ∧
      ∀ row ∈ s.db.refreshTokens.rows, row.familyId = 900 → row.revokedAt ≠ none := by
  have hprefix : (exec (step Seed.tokenConfig) (initial Seed.users) (logoutRun.take 3)).any
      fun r => 900 ∈ r.revokes? (.proceed 1 (Seed.tokenEnv 2)) := by decide
  have hrun : (exec (step Seed.tokenConfig) (initial Seed.users) logoutRun).any
      fun s => s.db.refreshTokens.rows.length = 1 := by decide
  obtain ⟨r, hr, hrevokes⟩ := exists_of_any hprefix
  obtain ⟨s, hs, hone⟩ := exists_of_any hrun
  exact ⟨s, hs, hone, revocation_final Seed.tokenConfig Seed.users hs
    (by decide) _ _ (logoutRun.drop 4) r rfl hr 900 hrevokes⟩

/-- The customer logs out while a rotation of the session is past its check. -/
def racedLogoutRun : List SessionEvent :=
  [.issue Seed.session Seed.context 900, .proceed 0 (Seed.tokenEnv 1),
    .rotate (Seed.token 1) Seed.context 2, .proceed 1 (Seed.tokenEnv 2),
    .revoke (Seed.token 1) 3, .proceed 2 (Seed.tokenEnv 3),
    .proceed 1 (Seed.tokenEnv 4), .proceed 1 (Seed.tokenEnv 5), .proceed 1 (Seed.tokenEnv 6)]

theorem logout_raced :
    ¬ ∀ cfg users es s, exec (step cfg) (initial users) es = some s →
      ∀ fs e gs r, es = fs ++ e :: gs → exec (step cfg) (initial users) fs = some r →
        ∀ F ∈ r.revokes? e, ∀ row ∈ s.db.refreshTokens.rows, row.familyId = F →
          row.revokedAt ≠ none := by
  intro hall
  have hprefix : (exec (step Seed.tokenConfig) (initial Seed.users) (racedLogoutRun.take 5)).any
      fun r => 900 ∈ r.revokes? (.proceed 2 (Seed.tokenEnv 3)) := by decide
  have hrun : (exec (step Seed.tokenConfig) (initial Seed.users) racedLogoutRun).any
      fun s => s.db.refreshTokens.rows.any fun row =>
        row.familyId = 900 ∧ row.revokedAt = none := by decide
  obtain ⟨r, hr, hrevokes⟩ := exists_of_any hprefix
  obtain ⟨s, hs, hrow⟩ := (Option.any_eq_true _ _).mp hrun
  obtain ⟨row, hmem, hopen⟩ := List.any_eq_true.mp hrow
  obtain ⟨hfamily, hnone⟩ := of_decide_eq_true hopen
  exact hall _ _ racedLogoutRun s hs _ _ (racedLogoutRun.drop 6) r rfl hr 900
    hrevokes row hmem hfamily hnone

end Sessions

end SupportPlatform
