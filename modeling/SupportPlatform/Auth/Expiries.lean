import Mathlib.Data.Rat.Floor
import Mathlib.Tactic.Linarith
import SupportPlatform.Auth.Sessions
import SupportPlatform.Core.Timespan

/-!
# Two expiries of a refresh token

A refresh token expires twice: the `exp` claim ends the token for the signing library, `expiresAt`
ends its row for `rotate`. Both are read off `JWT_REFRESH_EXPIRES_IN`, the first by the library's
grammar, the second by `expiryToDate`.
-/

namespace SupportPlatform

/-- `JWT_REFRESH_EXPIRES_IN` as the environment schema passes it on: a text that is not empty, `7d`
when it is not set. -/
def refreshExpiresIn : Option String → Option String
  | none => some "7d"
  | some "" => none
  | some value => some value

/-- The `exp` the library adds: `Math.floor(iat + ms / 1000)` on the whole seconds of the clock. -/
def expClaim (signedAt : Time) (q : ℚ) : Time := 1000 * ⌊((signedAt / 1000 : Nat) : ℚ) + q / 1000⌋₊

lemma expClaim_eq (signedAt : Time) {q : ℚ} (hq : 0 ≤ q) :
    expClaim signedAt q = 1000 * (signedAt / 1000 + ⌊q / 1000⌋₊) := by
  rw [expClaim, add_comm, Nat.floor_add_natCast (by positivity), Nat.add_comm]

namespace TokenService

/-! ### What `expiryToDate` reads -/

/-- A match of `^(\d+)([dhms])$`: the digits, and the milliseconds of the unit. -/
def Matches (expiresIn : String) (digits : List Char) (ms : Nat) : Prop :=
  ∃ unit, expiresIn.toList = digits ++ [unit] ∧ digits ≠ [] ∧ (∀ c ∈ digits, c.isDigit) ∧
    unitMs unit = some ms

/-- The texts that do not fall back to 7 days. -/
def Supported (expiresIn : String) : Prop := ∃ digits ms, Matches expiresIn digits ms

lemma duration_of_matches {expiresIn : String} {digits : List Char} {ms : Nat}
    (h : Matches expiresIn digits ms) :
    duration expiresIn = Nat.ofDigitChars 10 digits 0 * ms := by
  obtain ⟨unit, htext, hne, hdigits, hms⟩ := h
  have hreverse : expiresIn.toList.reverse = unit :: digits.reverse := by simp [htext]
  have hall : digits.reverse ≠ [] ∧ digits.reverse.all Char.isDigit :=
    ⟨by simpa using hne, by simpa using hdigits⟩
  rw [duration, hreverse]
  simp only [hms, if_pos hall, List.reverse_reverse]

lemma duration_of_not_supported {expiresIn : String} (h : ¬ Supported expiresIn) :
    duration expiresIn = 7 * 24 * 60 * 60 * 1000 := by
  rw [duration]
  split
  · next unit digits hreverse =>
    split
    · next ms hms =>
      refine if_neg fun hdigits => h ⟨digits.reverse, ms, unit, ?_, ?_, ?_, hms⟩
      · simpa using congrArg List.reverse hreverse
      · simpa using hdigits.1
      · simpa using hdigits.2
    · rfl
  · rfl

lemma dvd_of_unitMs {unit : Char} {ms : Nat} (h : unitMs unit = some ms) : 1000 ∣ ms := by
  unfold unitMs at h
  split at h <;> cases h <;> decide

lemma mem_units_of_unitMs {unit : Char} {ms : Nat} (h : unitMs unit = some ms) :
    (String.singleton unit, ms) ∈ Timespan.units := by
  unfold unitMs at h
  split at h <;> cases h <;> decide

/-- The library reads the same duration off a text `expiryToDate` matches. -/
lemma reads_of_matches {expiresIn : String} {digits : List Char} {ms : Nat}
    (h : Matches expiresIn digits ms) : Timespan.Reads expiresIn (duration expiresIn) := by
  rw [duration_of_matches h]
  obtain ⟨unit, htext, hne, hdigits, hms⟩ := h
  refine ⟨.ofDigits digits hdigits hne, (String.singleton unit).toList, ms, ?_, .direct ?_, ?_⟩
  · simp [Timespan.Decimal.chars, Timespan.Decimal.ofDigits, htext]
  · exact mem_units_of_unitMs hms
  · rw [Timespan.Decimal.value_ofDigits, Nat.cast_mul]

lemma dvd_duration_of_matches {expiresIn : String} {digits : List Char} {ms : Nat}
    (h : Matches expiresIn digits ms) : 1000 ∣ duration expiresIn := by
  rw [duration_of_matches h]
  obtain ⟨unit, -, -, -, hms⟩ := h
  exact Dvd.dvd.mul_left (dvd_of_unitMs hms) _

/-! ### The row of a new token -/

lemma expiryToDate_eq_some {expiresIn : String} {now expiresAt : Time}
    (h : expiryToDate expiresIn now = some expiresAt) : expiresAt = now + duration expiresIn := by
  rw [expiryToDate] at h
  split_ifs at h
  exact (Option.some.inj h).symm

/-- The two expiries `issueTokens` leaves behind when it returns. -/
lemma expiries_of_issueTokens {cfg : TokenConfig} {env : TokenEnv} {db db' : TokenDb}
    {user : AuthenticatedUser} {context : RequestContext} {familyId : Uuid} {tokens : AuthTokens}
    {signed : List RefreshJwt}
    (h : issueTokens cfg env db user context familyId = (.ok tokens, db', signed)) :
    tokens.refreshToken.exp = env.exp ∧
      ∃ row, db'.refreshTokens.find? tokens.refreshToken.payload.jti = some row ∧
        row.expiresAt = env.now + duration cfg.refreshExpiresIn := by
  unfold issueTokens at h
  split at h
  · cases h
  · cases h
  · dsimp only at h
    split at h
    · cases h
    · next db₁ hcreate =>
      cases h
      obtain ⟨expiresAt, refreshTokens, hexpires, -, -, hins, rfl⟩ :=
        createRefreshToken_eq_ok hcreate
      exact ⟨rfl, _, Table.find?_insert?_self hins, expiryToDate_eq_some hexpires⟩

/-- `issueTokens` returns when nothing fails, the date is valid and the row is new. -/
lemma exists_issueTokens {cfg : TokenConfig} {env : TokenEnv} {db : TokenDb}
    {user : AuthenticatedUser} {context : RequestContext} {familyId : Uuid} {expiresAt : Time}
    (hfault : env.fault = none) (haccess : env.accessFault = none)
    (hrefresh : env.refreshFault = none)
    (hexpires : expiryToDate cfg.refreshExpiresIn env.now = some expiresAt)
    (hhash : ∀ r ∈ db.refreshTokens.rows, r.tokenHash ≠ cfg.hash (newToken env user familyId))
    (huser : (db.users.find? user.id).isSome) (hjti : env.jti ∉ db.refreshTokens.keys) :
    ∃ tokens db' signed,
      issueTokens cfg env db user context familyId = (.ok tokens, db', signed) := by
  let row := newRow cfg env user context familyId expiresAt
  obtain ⟨refreshTokens, hins⟩ := Table.insert?_of_free (t := db.refreshTokens) (r := row) hjti
  have htaken : db.refreshTokens.rows.any (·.tokenHash = row.tokenHash) = false :=
    List.any_eq_false.mpr fun r hr heq => hhash r hr (of_decide_eq_true heq)
  have hrow : insertRow db.refreshTokens row
      (db.refreshTokens.rows.any (·.tokenHash = row.tokenHash))
      (db.users.find? row.userId).isSome = .ok refreshTokens :=
    insertRow_eq_ok.mpr ⟨htaken, huser, hins⟩
  have hcreate : createRefreshToken cfg env db user context familyId =
      .ok { db with refreshTokens } := by
    simp only [createRefreshToken, hexpires, hfault]
    rw [hrow]
  exact ⟨_, _, _, by simp only [issueTokens, haccess, hrefresh, hcreate]; rfl⟩

/-! ### Agreement -/

/-- Every refresh token issued under the setting, of which the library makes `q` milliseconds,
expires within one second of its row. The library reads the clock at `signedAt`, `expiryToDate` at
`env.now`; what passes in between is added to the second. -/
def ExpiriesAgree (setting : Option String) (q : ℚ) : Prop :=
  ∀ (cfg : TokenConfig) (env : TokenEnv) (signedAt : Time) (db db' : TokenDb)
    (user : AuthenticatedUser) (context : RequestContext) (familyId : Uuid) (tokens : AuthTokens)
    (signed : List RefreshJwt),
    refreshExpiresIn setting = some cfg.refreshExpiresIn → signedAt ≤ env.now →
    env.exp = expClaim signedAt q →
    issueTokens cfg env db user context familyId = (.ok tokens, db', signed) →
    ∃ row, db'.refreshTokens.find? tokens.refreshToken.payload.jti = some row ∧
      |(row.expiresAt : ℤ) - tokens.refreshToken.exp| ≤ 1000 + (env.now - signedAt : ℤ)

/-- The setting is one `expiryToDate` parses, or its duration rounds to 7 days in the library. -/
def AgreesOn (value : String) (q : ℚ) : Prop :=
  Supported value ∨ 604800000 ≤ q ∧ q < 604802000

/-- The seconds of the library are those of `expiryToDate`, or one more. -/
lemma agreesOn_iff_floor {value : String} {q : ℚ} (hq : Timespan.Reads value q) :
    AgreesOn value q ↔
      duration value = 1000 * ⌊q / 1000⌋₊ ∨ duration value + 1000 = 1000 * ⌊q / 1000⌋₊ := by
  by_cases h : Supported value
  · obtain ⟨digits, ms, hmatches⟩ := h
    obtain ⟨n, hn⟩ := dvd_duration_of_matches hmatches
    have hseconds : q / 1000 = n := by
      rw [hq.unique (reads_of_matches hmatches), hn, Nat.cast_mul]
      exact mul_div_cancel_left₀ _ (by norm_num)
    rw [hseconds, Nat.floor_natCast]
    exact ⟨fun _ => .inl hn, fun _ => .inl ⟨digits, ms, hmatches⟩⟩
  · have hpos : 0 ≤ q / 1000 := div_nonneg hq.nonneg (by norm_num)
    have hlower : 604800 ≤ ⌊q / 1000⌋₊ ↔ 604800000 ≤ q := by
      rw [Nat.le_floor_iff hpos, le_div_iff₀ (by norm_num)]
      norm_num
    have hupper : ⌊q / 1000⌋₊ < 604802 ↔ q < 604802000 := by
      rw [Nat.floor_lt hpos, div_lt_iff₀ (by norm_num)]
      norm_num
    rw [AgreesOn, or_iff_right h, ← hlower, ← hupper, duration_of_not_supported h]
    omega

lemma agrees_of_floor {setting : Option String} {value : String} {q : ℚ}
    (hvalue : refreshExpiresIn setting = some value) (hq : 0 ≤ q)
    (h : duration value = 1000 * ⌊q / 1000⌋₊ ∨ duration value + 1000 = 1000 * ⌊q / 1000⌋₊) :
    ExpiriesAgree setting q := by
  intro cfg env signedAt db db' user context familyId tokens signed hcfg hclock hexp hissue
  obtain ⟨htoken, row, hfind, hrow⟩ := expiries_of_issueTokens hissue
  refine ⟨row, hfind, ?_⟩
  cases hvalue.symm.trans hcfg
  rw [hexp, expClaim_eq _ hq] at htoken
  obtain ⟨elapsed, hnow⟩ := Nat.exists_eq_add_of_le hclock
  rw [htoken, hrow, hnow, abs_le]
  omega

/-- For the converse the customer signs in when the clock stands at the end of its first second. -/
lemma floor_of_agrees {setting : Option String} {value : String} {q : ℚ}
    (hvalue : refreshExpiresIn setting = some value) (hq : 0 ≤ q)
    (hduration : duration value = 7 * 24 * 60 * 60 * 1000) (h : ExpiriesAgree setting q) :
    duration value = 1000 * ⌊q / 1000⌋₊ ∨ duration value + 1000 = 1000 * ⌊q / 1000⌋₊ := by
  let cfg : TokenConfig := { Seed.tokenConfig with refreshExpiresIn := value }
  let env : TokenEnv := { Seed.tokenEnv 999 with exp := expClaim 999 q }
  let db : TokenDb := ⟨Seed.users, .empty⟩
  have hexpires : expiryToDate cfg.refreshExpiresIn env.now = some (999 + duration value) :=
    if_pos (show 999 + duration value ≤ maxTime by rw [maxTime]; omega)
  have hreturns : ∃ tokens db' signed,
      issueTokens cfg env db Seed.session Seed.context 900 = (.ok tokens, db', signed) :=
    exists_issueTokens rfl rfl rfl hexpires (fun r hr => absurd hr List.not_mem_nil) rfl
      List.not_mem_nil
  obtain ⟨tokens, db', signed, hissue⟩ := hreturns
  obtain ⟨row, hfind, hwithin⟩ := h _ _ 999 _ _ _ _ _ _ _ hvalue (Nat.le_refl 999) rfl hissue
  obtain ⟨htoken, row', hfind', hrow⟩ := expiries_of_issueTokens hissue
  cases hfind.symm.trans hfind'
  have hclaim : tokens.refreshToken.exp = 1000 * (999 / 1000 + ⌊q / 1000⌋₊) :=
    htoken.trans (expClaim_eq 999 hq)
  have hstored : row.expiresAt = 999 + duration value := hrow
  have hnow : env.now = 999 := rfl
  rw [hclaim, hstored, hnow, abs_le] at hwithin
  omega

/-- The two expiries of a refresh token agree exactly when the setting is one that `expiryToDate`
parses, or one of which the library makes 7 days as `expiryToDate` does of every other. -/
theorem expiriesAgree_iff {setting : Option String} {value : String} {q : ℚ}
    (hvalue : refreshExpiresIn setting = some value) (hq : Timespan.Reads value q) :
    ExpiriesAgree setting q ↔ AgreesOn value q := by
  constructor
  · intro h
    by_cases hsupported : Supported value
    · exact .inl hsupported
    · have hduration := duration_of_not_supported hsupported
      exact (agreesOn_iff_floor hq).mpr (floor_of_agrees hvalue hq.nonneg hduration h)
  · intro h
    exact agrees_of_floor hvalue hq.nonneg ((agreesOn_iff_floor hq).mp h)

/-- A number of weeks, which the library accepts and `expiryToDate` does not parse. -/
lemma reads_weeks : Timespan.Reads "2w" 1209600000 := by
  refine ⟨.ofDigits ['2'] (List.all_eq_true.mp rfl) (by decide), ['w'], 604800000, rfl, ?_, ?_⟩
  · exact show Timespan.UnitText "w".toList 604800000 from .direct (by decide)
  · have hdigits : Nat.ofDigitChars 10 ['2'] 0 = 2 := rfl
    rw [Timespan.Decimal.value_ofDigits, hdigits]
    norm_num

lemma not_supported_weeks : ¬ Supported "2w" := by
  rintro ⟨digits, ms, unit, htext, -, -, hms⟩
  have hlast : 'w' = unit := by simpa using congrArg List.getLast? htext
  subst hlast
  cases hms

/-- The row of a token of two weeks expires after one. -/
theorem not_expiriesAgree : ¬ ∀ (setting : Option String) (value : String) (q : ℚ),
    refreshExpiresIn setting = some value → Timespan.Reads value q → ExpiriesAgree setting q := by
  intro h
  have hagree : ExpiriesAgree (some "2w") 1209600000 := h _ _ _ rfl reads_weeks
  have hfloor := floor_of_agrees rfl reads_weeks.nonneg
    (duration_of_not_supported not_supported_weeks) hagree
  have hseconds : ⌊(1209600000 / 1000 : ℚ)⌋₊ = 1209600 := by norm_num
  rw [duration_of_not_supported not_supported_weeks, hseconds] at hfloor
  omega

theorem expiriesAgree_hours : ExpiriesAgree (some "12h") 43200000 := by
  have hmatches : Matches "12h" ['1', '2'] (60 * 60 * 1000) :=
    ⟨'h', rfl, by decide, List.all_eq_true.mp rfl, rfl⟩
  have hreads : Timespan.Reads "12h" 43200000 := by
    have hduration := reads_of_matches hmatches
    rw [duration_of_matches hmatches] at hduration
    exact hduration
  have hvalue : refreshExpiresIn (some "12h") = some "12h" := rfl
  exact (expiriesAgree_iff hvalue hreads).mpr (.inl ⟨_, _, hmatches⟩)

/-! ### The check of `rotate` -/

/-- Of a token whose two expiries are at most `bound` apart, `rotate` refuses none as expired that
is valid for `bound` milliseconds more, and lets none pass that has been invalid for longer. -/
theorem rotate_of_within {cfg : TokenConfig} {env : TokenEnv} {db : TokenDb} {token : RefreshJwt}
    {context : RequestContext} {row : RefreshToken} {bound : Nat} (hfault : env.fault = none)
    (hfind : db.refreshTokens.find? token.payload.jti = some row)
    (hhash : row.tokenHash = cfg.hash token) (hrevoked : row.revokedAt = none)
    (hwithin : |(row.expiresAt : ℤ) - token.exp| ≤ bound) :
    (env.now + bound ≤ token.exp →
      (TokenCall.rotate token context).exec cfg env db = (db, [], .rotateUser token context row)) ∧
    (token.exp + bound < env.now →
      (TokenCall.rotate token context).exec cfg env db =
        TokenCall.fail db (.unauthorized "Refresh token expired")) := by
  have hexec : (TokenCall.rotate token context).exec cfg env db =
      if row.expiresAt < env.now then TokenCall.fail db (.unauthorized "Refresh token expired")
      else (db, [], .rotateUser token context row) := by
    simp [TokenCall.exec, hfault, hfind, hhash, hrevoked]
  obtain ⟨hlower, hupper⟩ := abs_le.mp hwithin
  rw [hexec]
  constructor
  · intro hvalid
    have hvalid' : (env.now : ℤ) + bound ≤ token.exp := by exact_mod_cast hvalid
    have hkeep : env.now ≤ row.expiresAt := Int.ofNat_le.mp (by omega)
    exact if_neg (not_lt.mpr hkeep)
  · intro hinvalid
    have hinvalid' : (token.exp : ℤ) + bound < env.now := by exact_mod_cast hinvalid
    have hexpired : row.expiresAt < env.now := Int.ofNat_lt.mp (by omega)
    exact if_pos hexpired

end TokenService

end SupportPlatform
