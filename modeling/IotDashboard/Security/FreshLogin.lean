import IotDashboard.Security.Sessions

/-!
# A fresh login is usable

A token holds nothing random: two logins of one user in the same second give the same text, and
`Logout` blacklists texts. A fresh token is therefore accepted exactly when no token stamped for
the same user in the same second was logged out before, and its expiry does not overflow.

## Main results

* `fresh_token_accepted_iff`: that condition, for `Login` and `RefreshToken`, in every reachable
  state;
* `fresh_login_refused`: logging out and in again within one second.
-/

namespace IotDashboard

open AuthenticationService StdString

variable {V : Vendor} {config : SecurityConfig}
  {guard : AuthTrace → AuthenticationService → Int64 × AuthCall → Prop} {tr : AuthTrace}
  {s : AuthenticationService} {now : Int64}

/-- The text is the compact token for these claims with these time stamps. -/
def StampedFor (V : Vendor) (config : SecurityConfig) (claims : UserClaims) (iat exp : Int64)
    (token : StdString) : Prop :=
  ∃ headerText payloadText, V.dump JwtHandler.header = .ok headerText ∧
    V.dump (JwtHandler.payload claims iat exp) = .ok payloadText ∧
    token = JwtHandler.signed V ⟨config.jwtSecret⟩
      (JwtHandler.signingInput headerText payloadText)

/-- What a token for these claims needs in order to be usable when it is issued: its expiry fits,
and no earlier `Logout` was given a token stamped alike. -/
def UsableAt (V : Vendor) (config : SecurityConfig) (tr : AuthTrace) (now : Int64)
    (claims : UserClaims) : Prop :=
  now.toInt + config.accessTokenExpiry.toInt < 2 ^ 63 ∧
    ∀ time token, logoutEvent time token ∈ tr →
      ¬ StampedFor V config claims now (now + config.accessTokenExpiry) token

/-- A positive lifetime reaches past the present exactly if it does not overflow. -/
private lemma le_add_iff {a b : Int64} (hb : 0 < b) : a ≤ a + b ↔ a.toInt + b.toInt < 2 ^ 63 := by
  have hb' := Int64.lt_iff_toInt_lt.mp hb
  have ha := a.le_toInt
  have ha' := a.toInt_lt
  have hb'' := b.toInt_lt
  rw [Int64.toInt_zero] at hb'
  rw [Int64.le_iff_toInt_le, Int64.toInt_add, Int.bmod_def]
  split <;> omega

/-- A generated token is accepted at once, with its claims, exactly if it is usable. -/
private lemma validateToken_generate_iff (hjson : V.ParseUndoesDump)
    (hexpiry : 0 < config.accessTokenExpiry) (hrun : Run V guard config tr s)
    {claims : UserClaims} {token : StdString}
    (hgen : s.jwtHandler.generate V now claims s.config.accessTokenExpiry = .ok (.ok token)) :
    s.validateToken V now token = .ok (.ok claims) ↔ UsableAt V config tr now claims := by
  rw [jwtHandler, config_of_run hrun] at hgen
  obtain ⟨headerText, payloadText, hheader, hpayload, htoken⟩ :=
    JwtHandler.generate_eq_ok_iff.mp hgen
  -- The token is blacklisted exactly if a token stamped alike was logged out.
  have hlive : token ∉ s.revokedTokens ↔ ∀ time token, logoutEvent time token ∈ tr →
      ¬ StampedFor V config claims now (now + config.accessTokenExpiry) token := by
    rw [mem_revokedTokens_iff hrun]
    constructor
    · rintro hno time old hlogout ⟨headerText', payloadText', hheader', hpayload', rfl⟩
      -- The same texts, hence the same token.
      rw [hheader, Except.ok.injEq] at hheader'
      rw [hpayload, Except.ok.injEq] at hpayload'
      subst hheader' hpayload'
      exact hno ⟨time, htoken ▸ hlogout⟩
    · rintro hno ⟨time, hlogout⟩
      exact hno time token hlogout ⟨headerText, payloadText, hheader, hpayload, htoken⟩
  rw [validateToken_eq_ok_iff, jwtHandler, config_of_run hrun,
    JwtHandler.verify_of_generate hjson hgen, UsableAt, hlive, ← le_add_iff hexpiry, and_comm]
  -- What is left is whether the expiry lies in the past already.
  refine and_congr_left fun _ => ?_
  by_cases hexpired : now + config.accessTokenExpiry < now
  · simp [hexpired]
  · simpa [hexpired] using Int64.not_lt.mp hexpired

/-- A fresh token is accepted at once exactly if it is usable: for the access token of a `Login`,
with the claims of the user it found, and for that of a `RefreshToken`, with the claims of the
token it was given. -/
theorem fresh_token_accepted_iff (hjson : V.ParseUndoesDump)
    (hexpiry : 0 < config.accessTokenExpiry) (hrun : Run V guard config tr s) {pair : TokenPair} :
    (∀ username password, s.login V now username password = .ok (.ok pair) →
      ∃ user, s.users.lookup username = some user ∧
        (s.validateToken V now pair.accessToken = .ok (.ok user.claims) ↔
          UsableAt V config tr now user.claims)) ∧
    ∀ token, s.refreshToken V now token = .ok (.ok pair) →
      ∃ claims, s.jwtHandler.verify V now token = .ok (.ok claims) ∧
        (s.validateToken V now pair.accessToken = .ok (.ok claims) ↔
          UsableAt V config tr now claims) := by
  constructor
  · intro username password hok
    obtain ⟨user, hlookup, -, haccess, -⟩ := login_eq_ok_iff.mp hok
    exact ⟨user, hlookup, validateToken_generate_iff hjson hexpiry hrun haccess⟩
  · intro token hok
    obtain ⟨claims, hverify, -, haccess, -⟩ := refreshToken_eq_ok_iff.mp hok
    exact ⟨claims, hverify, validateToken_generate_iff hjson hexpiry hrun haccess⟩

/-- A service after one registration. -/
theorem fresh_token_accepted_iff_sample :
    ∃ tr s pair, Run Vendor.reference ClockMonotone sampleConfig tr s ∧
      s.login Vendor.reference 0 (lit "alice") (lit "pw") = .ok (.ok pair) ∧
      ∃ user, s.users.lookup (lit "alice") = some user ∧
        (s.validateToken Vendor.reference 0 pair.accessToken = .ok (.ok user.claims) ↔
          UsableAt Vendor.reference sampleConfig tr 0 user.claims) := by
  obtain ⟨s, tr, hrun, -, -, hlogin⟩ :=
    exists_sampleService ClockMonotone .operator (by simp [ClockMonotone])
  obtain ⟨pair, hok, -⟩ := hlogin 0
  exact ⟨tr, s, pair, hrun, hok,
    (fresh_token_accepted_iff Vendor.parseUndoesDump_reference (by decide) hrun).1 _ _ hok⟩

/-- Logging in, out and in again at time zero: the second login returns the token that was just
logged out. -/
theorem fresh_login_refused :
    ¬ ∀ tr s now username password pair,
      Run Vendor.reference ClockMonotone sampleConfig tr s →
      ClockMonotone tr s (now, .login username password) →
      s.login Vendor.reference now username password = .ok (.ok pair) →
      ∃ claims, s.validateToken Vendor.reference now pair.accessToken = .ok (.ok claims) := by
  intro hall
  obtain ⟨s, tr, hrun, -, rfl, hlogin⟩ :=
    exists_sampleService ClockMonotone .operator (by simp [ClockMonotone])
  obtain ⟨pair, hok, -⟩ := hlogin 0
  have hrun0 := run_login hrun (by simp [ClockMonotone]) hok
  have hrun1 := run_logout 0 pair.accessToken hrun0
    (by simp [ClockMonotone, loginEvent])
  -- The user table and the handler are untouched, so the second login computes the same pair.
  have hok' : (s.logout pair.accessToken).login Vendor.reference 0 (lit "alice") (lit "pw") =
      .ok (.ok pair) := hok
  obtain ⟨claims, hvalid⟩ := hall _ _ 0 _ _ pair hrun1
    (by simp [ClockMonotone, loginEvent, logoutEvent]) hok'
  rw [validateToken_of_revoked (mem_revokedTokens_logout.mpr (.inl rfl))] at hvalid
  cases hvalid

end IotDashboard
