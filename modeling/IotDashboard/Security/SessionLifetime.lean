import IotDashboard.Security.Sessions

/-!
# How long a session lasts

A login is meant to open a session of bounded length: the refresh token lives for the refresh
lifetime, and an access token obtained with it for the access lifetime more. `RefreshToken` does
not ask which kind of token it is given, so a session is bounded exactly as long as nobody
refreshes with an access token after the refresh token has run out.

## Main results

* `rejected_after_session`: the bound, for runs without such a refresh;
* `session_outlives_bound`: a session kept alive by its access tokens.
-/

namespace IotDashboard

open AuthenticationService StdString

variable {V : Vendor} {config : SecurityConfig} {tr : AuthTrace} {s : AuthenticationService}
  {root : LoginAt} {token : StdString}

/-- Once the refresh lifetime of a session's login has passed, `RefreshToken` is given no access
token of the session that is neither logged out nor expired. -/
def RefreshesInTime (config : SecurityConfig) (tr : AuthTrace) (s : AuthenticationService) :
    Int64 × AuthCall → Prop
  | (now, .refreshToken token) => ∀ root time, SessionToken tr root token →
      IssuedAs tr .access token time →
      now.toInt ≤ root.time.toInt + config.refreshTokenExpiry.toInt ∨
        token ∈ s.revokedTokens ∨ time + config.accessTokenExpiry < now
  | _ => True

/-- Every token of a session was generated with an expiry within the bound. -/
private lemma exists_generate_of_sessionToken (hjson : V.ParseUndoesDump)
    (haccess : 0 ≤ config.accessTokenExpiry) (hrefresh : 0 ≤ config.refreshTokenExpiry)
    (hrun : Run V (RefreshesInTime config) config tr s) (htoken : SessionToken tr root token) :
    ∃ iat e claims, JwtHandler.generate V ⟨config.jwtSecret⟩ iat claims e = .ok (.ok token) ∧
      (iat + e).toInt ≤ root.time.toInt + config.refreshTokenExpiry.toInt +
        config.accessTokenExpiry.toInt := by
  have haccess' := Int64.le_iff_toInt_le.mp haccess
  have hrefresh' := Int64.le_iff_toInt_le.mp hrefresh
  rw [Int64.toInt_zero] at haccess' hrefresh'
  -- The two tokens of the login start their lifetimes at the login; a renewed token starts its own
  -- at the refresh.
  cases htoken with
  | access h =>
    obtain ⟨pre, post, htr⟩ := List.append_of_mem h
    obtain ⟨s', user, -, -, -, hgen, -⟩ := exists_user_of_login hrun htr
    have hle := toInt_add_le (a := root.time) haccess
    exact ⟨_, _, _, hgen, by omega⟩
  | refresh h =>
    obtain ⟨pre, post, htr⟩ := List.append_of_mem h
    obtain ⟨s', user, -, -, -, -, hgen⟩ := exists_user_of_login hrun htr
    have hle := toInt_add_le (a := root.time) hrefresh
    exact ⟨_, _, _, hgen, by omega⟩
  | @renewed _ pre post _ old time pair hold htr =>
    obtain ⟨s', claims, hpre, hguard, hlive, hverify, hgen⟩ := exists_claims_of_refresh hrun htr
    have hle := toInt_add_le (a := time) haccess
    -- The old token was the login's refresh token, or an access token refreshed in time.
    have htime : time.toInt ≤ root.time.toInt + config.refreshTokenExpiry.toInt := by
      rcases hold.root_or_access with ⟨first, hlogin, rfl⟩ | ⟨issued, hissued⟩
      · obtain ⟨pre', post', htr'⟩ := List.append_of_mem hlogin
        obtain ⟨-, user, -, -, -, -, hfirst⟩ := exists_user_of_login hpre htr'
        have hunexpired := (JwtHandler.accepted_of_generate hjson hfirst hverify).2
        exact (Int64.le_iff_toInt_le.mp hunexpired).trans (toInt_add_le hrefresh)
      · obtain ⟨_, hissuedGen⟩ := exists_generate_of_issuedAs hpre hissued
        have hunexpired := (JwtHandler.accepted_of_generate hjson hissuedGen hverify).2
        rcases hguard root issued hold hissued with h | h | h
        · exact h
        · exact absurd h hlive
        · exact absurd h (Int64.not_lt.mpr hunexpired)
    exact ⟨_, _, _, hgen, by omega⟩

/-- Bounded sessions: in every run that refreshes in time, a token of a session is rejected from
the moment the refresh and the access lifetime have both passed since the login. -/
theorem rejected_after_session (hjson : V.ParseUndoesDump) (haccess : 0 ≤ config.accessTokenExpiry)
    (hrefresh : 0 ≤ config.refreshTokenExpiry)
    (hrun : Run V (RefreshesInTime config) config tr s) (htoken : SessionToken tr root token)
    {now : Int64} (hlate : root.time.toInt + config.refreshTokenExpiry.toInt +
      config.accessTokenExpiry.toInt < now.toInt) (claims : UserClaims) :
    s.validateToken V now token ≠ .ok (.ok claims) := by
  intro hok
  obtain ⟨iat, e, claims', hgen, hbound⟩ :=
    exists_generate_of_sessionToken hjson haccess hrefresh hrun htoken
  obtain ⟨-, hverify⟩ := validateToken_eq_ok_iff.mp hok
  rw [jwtHandler, config_of_run hrun] at hverify
  -- An accepted token is alive, so the time is not past the bound on its expiry.
  have hlive := (JwtHandler.accepted_of_generate hjson hgen hverify).2
  have hle := Int64.le_iff_toInt_le.mp hlive
  omega

/-- A user who logs in at time zero, with lifetimes of ten and twenty seconds. -/
theorem rejected_after_session_sample :
    ∃ tr s token, Run Vendor.reference (RefreshesInTime sampleConfig) sampleConfig tr s ∧
      SessionToken tr ⟨0, lit "alice", lit "pw"⟩ token ∧
      ∀ claims, s.validateToken Vendor.reference 31 token ≠ .ok (.ok claims) := by
  obtain ⟨s, tr, hrun, -, -, hlogin⟩ :=
    exists_sampleService (RefreshesInTime sampleConfig) .operator trivial
  obtain ⟨pair, hok, -⟩ := hlogin 0
  have hnext := run_login hrun trivial hok
  have htoken : SessionToken _ ⟨0, lit "alice", lit "pw"⟩ pair.refreshToken :=
    .refresh (List.mem_append_right tr (List.mem_singleton_self _))
  exact ⟨_, s, _, hnext, htoken, rejected_after_session Vendor.parseUndoesDump_reference
    (by decide) (by decide) hnext htoken (by decide)⟩

/-- Refreshing with access tokens at 10, 20 and 30 keeps the session alive at 40, although the
lifetimes of twenty and ten seconds are over at 30. -/
theorem session_outlives_bound :
    ¬ ∀ tr s root token now claims, Run Vendor.reference ClockMonotone sampleConfig tr s →
      SessionToken tr root token → ClockMonotone tr s (now, .validateToken token) →
      root.time.toInt + sampleConfig.refreshTokenExpiry.toInt +
        sampleConfig.accessTokenExpiry.toInt < now.toInt →
      s.validateToken Vendor.reference now token ≠ .ok (.ok claims) := by
  intro hbounded
  have hjson := Vendor.parseUndoesDump_reference
  have hdumps := Vendor.dumpsUtf8_reference
  obtain ⟨s, tr, hrun, hrevoked, rfl, hlogin⟩ :=
    exists_sampleService ClockMonotone .operator (by simp [ClockMonotone])
  have hhandler : s.jwtHandler = ⟨sampleConfig.jwtSecret⟩ := by
    rw [jwtHandler, config_of_run hrun]
  have hlifetime : s.config.accessTokenExpiry = 10 := by
    rw [config_of_run hrun]
    rfl
  have hlive : ∀ t, t ∉ s.revokedTokens := by simp [hrevoked]
  -- Log in, then refresh three times with the access token just obtained.
  obtain ⟨pair, hok, haccess, -⟩ := hlogin 0
  have hrun0 := run_login hrun (by simp [ClockMonotone]) hok
  rw [← hhandler] at haccess
  obtain ⟨pair1, hok1, haccess1⟩ := exists_refreshToken hjson hdumps rfl rfl 10 haccess
    (by decide) (hlive _)
  have hrun1 := run_refreshToken hrun0 (by simp [ClockMonotone, loginEvent]) hok1
  rw [hlifetime] at haccess1
  obtain ⟨pair2, hok2, haccess2⟩ := exists_refreshToken hjson hdumps rfl rfl 20 haccess1
    (by decide) (hlive _)
  have hrun2 := run_refreshToken hrun1
    (by simp [ClockMonotone, loginEvent, refreshEvent]) hok2
  rw [hlifetime] at haccess2
  obtain ⟨pair3, hok3, haccess3⟩ := exists_refreshToken hjson hdumps rfl rfl 30 haccess2
    (by decide) (hlive _)
  have hrun3 := run_refreshToken hrun2
    (by simp [ClockMonotone, loginEvent, refreshEvent]) hok3
  rw [hlifetime] at haccess3
  -- The last token is still a token of the session that the login opened.
  have htoken := (((SessionToken.opened [((0, sampleRegistration .operator), .registered (.ok ()))]
    ⟨0, lit "alice", lit "pw"⟩ pair).renew 10 pair1).renew 20 pair2).renew 30 pair3
  refine hbounded _ s _ _ 40 (sampleClaims .operator) hrun3 htoken
    (by simp [ClockMonotone, loginEvent, refreshEvent]) (by decide) ?_
  rw [hhandler] at haccess3
  exact validateToken_of_generate hjson hrun haccess3 (hlive _) (by decide)

end IotDashboard
