import IotDashboard.Security.Sessions

/-!
# Access tokens and refresh tokens

`ValidateToken` opens the API, and is meant for access tokens. Both kinds of token come from one
generator and carry nothing that tells them apart but their expiry, so the separation holds as
long as no refresh token is presented while it is alive.

## Main results

* `accepted_token_is_access`: in runs without such a call, an accepted token was issued as an
  access token, and not longer ago than the access lifetime;
* `refresh_token_opens_api`: a refresh token is accepted after the access lifetime.
-/

namespace IotDashboard

open AuthenticationService StdString

variable {V : Vendor} {config : SecurityConfig} {tr : AuthTrace} {s : AuthenticationService}

/-- `ValidateToken` is given no forged token, and no refresh token of a login that is neither
logged out nor expired. -/
def AccessTokensOnly (V : Vendor) (config : SecurityConfig) (tr : AuthTrace)
    (s : AuthenticationService) : Int64 × AuthCall → Prop
  | (now, .validateToken token) => IdealMac V config tr token ∧
      ∀ time, IssuedAs tr .refresh token time →
        token ∈ s.revokedTokens ∨ time + config.refreshTokenExpiry < now
  | _ => True

/-- Only short-lived tokens are accepted, in every run that presents no live refresh token. -/
theorem accepted_token_is_access (hjson : V.ParseUndoesDump)
    (haccess : 0 ≤ config.accessTokenExpiry)
    (hrun : Run V (AccessTokensOnly V config) config tr s) {pre post : AuthTrace} {now : Int64}
    {token : StdString} {claims : UserClaims}
    (htr : tr = pre ++ acceptEvent now token claims :: post) :
    (∃ time, IssuedAs pre .access token time ∧
      now.toInt ≤ time.toInt + config.accessTokenExpiry.toInt) ∧
    ∀ time, ¬ IssuedAs pre .refresh token time := by
  obtain ⟨s', hpre, ⟨hmac, hguard⟩, hrevoked, hverify⟩ := verify_of_accept hrun htr
  -- An issued token is alive when it is accepted.
  have hlive : ∀ {kind time}, IssuedAs pre kind token time → now ≤ time + config.lifetime kind := by
    intro kind time hissued
    obtain ⟨claims', hgen⟩ := exists_generate_of_issuedAs hpre hissued
    exact (JwtHandler.accepted_of_generate hjson hgen hverify).2
  -- By the condition on the call, a refresh token was logged out or has expired.
  have hnotRefresh : ∀ time, ¬ IssuedAs pre .refresh token time := by
    intro time hissued
    rcases hguard time hissued with h | h
    · exact hrevoked h
    · have hle := hlive hissued
      rw [SecurityConfig.lifetime] at hle
      exact absurd h (Int64.not_lt.mpr hle)
  refine ⟨?_, hnotRefresh⟩
  -- The token was issued, and not as a refresh token.
  obtain ⟨kind, time, hissued⟩ := exists_issuedAs_of_verify hmac hverify
  cases kind with
  | access =>
    have hle := hlive hissued
    rw [SecurityConfig.lifetime] at hle
    exact ⟨time, hissued, (Int64.le_iff_toInt_le.mp hle).trans (toInt_add_le haccess)⟩
  | refresh => exact absurd hissued (hnotRefresh time)

/-- The two tokens of a login with lifetimes of ten and twenty seconds differ. -/
private lemma accessToken_ne_refreshToken {h : JwtHandler} {claims : UserClaims}
    {pair : TokenPair}
    (haccess : h.generate Vendor.reference 0 claims 10 = .ok (.ok pair.accessToken))
    (hrefresh : h.generate Vendor.reference 0 claims 20 = .ok (.ok pair.refreshToken)) :
    pair.accessToken ≠ pair.refreshToken := by
  intro heq
  -- At fifteen the one is expired and the other is not.
  have h1 := JwtHandler.verify_of_generate Vendor.parseUndoesDump_reference haccess 15
  have h2 := JwtHandler.verify_of_generate Vendor.parseUndoesDump_reference hrefresh 15
  rw [heq, h2, if_neg (by decide), if_pos (by decide)] at h1
  cases h1

/-- The access token of a login at time zero is accepted at time five. -/
theorem accepted_token_is_access_sample :
    ∃ tr s token claims, Run Vendor.reference (AccessTokensOnly Vendor.reference sampleConfig)
        sampleConfig (tr ++ [acceptEvent 5 token claims]) s ∧
      (∃ time, IssuedAs tr .access token time ∧
        (5 : Int64).toInt ≤ time.toInt + sampleConfig.accessTokenExpiry.toInt) ∧
      ∀ time, ¬ IssuedAs tr .refresh token time := by
  obtain ⟨s, tr, hrun, hrevoked, rfl, hlogin⟩ := exists_sampleService
    (AccessTokensOnly Vendor.reference sampleConfig) .operator trivial
  obtain ⟨pair, hok, haccess, hrefresh⟩ := hlogin 0
  have hrun0 := run_login hrun trivial hok
  have hissued : IssuedAs [loginEvent 0 (lit "alice") (lit "pw") pair] .access
      pair.accessToken 0 := issuedAs_loginEvent_iff.mpr ⟨rfl, .inl ⟨rfl, rfl⟩⟩
  -- The token was issued, and only as an access token, so the call meets the condition.
  have hguard : AccessTokensOnly Vendor.reference sampleConfig
      ([((0, sampleRegistration .operator), .registered (.ok ()))] ++
        [loginEvent 0 (lit "alice") (lit "pw") pair]) s (5, .validateToken pair.accessToken) := by
    refine ⟨idealMac_of_issuedAs (issuedAs_append_iff.mpr (.inr hissued)), fun time hother => ?_⟩
    rcases issuedAs_append_iff.mp hother with h | h
    · exact absurd h (not_issuedAs_of_ne (by simp))
    · rcases (issuedAs_loginEvent_iff.mp h).2 with ⟨hkind, -⟩ | ⟨-, hsame⟩
      · cases hkind
      · exact absurd hsame (accessToken_ne_refreshToken haccess hrefresh)
  have hverify : s.validateToken Vendor.reference 5 pair.accessToken =
      .ok (.ok (sampleClaims .operator)) :=
    validateToken_of_generate Vendor.parseUndoesDump_reference hrun haccess (by simp [hrevoked])
      (by decide)
  have hrun1 := run_validateToken hrun0 hguard hverify
  exact ⟨_, s, _, _, hrun1, accepted_token_is_access Vendor.parseUndoesDump_reference (by decide)
    hrun1 rfl⟩

/-- The refresh token of a login at time zero is accepted at time fifteen, although access tokens
live for ten seconds. -/
theorem refresh_token_opens_api :
    ¬ ∀ tr s pre post now token claims,
      Run Vendor.reference (NoForgery Vendor.reference sampleConfig) sampleConfig tr s →
      sampleConfig.accessTokenExpiry < sampleConfig.refreshTokenExpiry →
      tr = pre ++ acceptEvent now token claims :: post →
      ∃ time, IssuedAs pre .access token time ∧
        now.toInt ≤ time.toInt + sampleConfig.accessTokenExpiry.toInt := by
  intro hall
  obtain ⟨s, tr, hrun, hrevoked, rfl, hlogin⟩ := exists_sampleService
    (NoForgery Vendor.reference sampleConfig) .operator trivial
  obtain ⟨pair, hok, -, hrefresh⟩ := hlogin 0
  have hrun0 := run_login hrun trivial hok
  have hissued : IssuedAs [loginEvent 0 (lit "alice") (lit "pw") pair] .refresh
      pair.refreshToken 0 := issuedAs_loginEvent_iff.mpr ⟨rfl, .inr ⟨rfl, rfl⟩⟩
  have hverify : s.validateToken Vendor.reference 15 pair.refreshToken =
      .ok (.ok (sampleClaims .operator)) :=
    validateToken_of_generate Vendor.parseUndoesDump_reference hrun hrefresh (by simp [hrevoked])
      (by decide)
  have hrun1 := run_validateToken hrun0
    (idealMac_of_issuedAs (issuedAs_append_iff.mpr (.inr hissued))) hverify
  obtain ⟨time, hother, hle⟩ := hall _ s _ [] 15 _ _ hrun1 (by decide) rfl
  -- Whatever was issued as an access token was issued at time zero.
  have hzero : time = 0 := by
    rcases issuedAs_append_iff.mp hother with h | h
    · exact absurd h (not_issuedAs_of_ne (by simp))
    · exact (issuedAs_loginEvent_iff.mp h).1
  subst hzero
  exact absurd hle (by decide)

end IotDashboard
