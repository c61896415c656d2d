import IotDashboard.Security.Sessions

/-!
# Authentication soundness

Under an ideal MAC the service accepts a token only on behalf of a registered user who logged in
with a password that verifies: whatever strings an adversary presents, the chain of the accepted
token starts at such a login.

## Main results

* `provenance_of_issuedAs`: where every issued token comes from, by induction on the run;
* `accepted_token_authentic`: `ValidateToken` and `RefreshToken` succeed for such tokens only.
-/

namespace IotDashboard

open AuthenticationService StdString

variable {V : Vendor} {config : SecurityConfig} {tr : AuthTrace} {s : AuthenticationService}

/-- At `root` the password verified against the stored hash of a user registered before. -/
def LoggedIn (V : Vendor) (config : SecurityConfig) (tr : AuthTrace) (root : LoginAt)
    (user : UserRecord) : Prop :=
  ∃ pre post pair,
    tr = pre ++ loginEvent root.time root.username root.password pair :: post ∧
    FirstRegistered V config pre user ∧ user.username = root.username ∧
    PasswordHasher.verify V root.password user.passwordHash = true

/-- The token belongs to the session of a genuine login of the user. -/
def Provenance (V : Vendor) (config : SecurityConfig) (tr : AuthTrace) (user : UserRecord)
    (token : StdString) : Prop :=
  ∃ root, SessionToken tr root token ∧ LoggedIn V config tr root user

/-- What acceptance of a token at a time guarantees about the history before it. -/
structure Authentic (V : Vendor) (config : SecurityConfig) (tr : AuthTrace) (now : Int64)
    (token : StdString) (claims : UserClaims) : Prop where
  session : ∃ user, Provenance V config tr user token ∧ claims = user.claims
  unexpired : ∃ kind time, IssuedAs tr kind token time ∧ now ≤ time + config.lifetime kind
  notLoggedOut : ∀ time, logoutEvent time token ∉ tr

/-- Where a token comes from does not change later. -/
theorem Provenance.append {user : UserRecord} {token : StdString}
    (h : Provenance V config tr user token) (tr' : AuthTrace) :
    Provenance V config (tr ++ tr') user token := by
  obtain ⟨root, htoken, pre, post, pair, rfl, hregistered, hname, hverify⟩ := h
  exact ⟨root, htoken.append tr', pre, post ++ tr', pair, by simp, hregistered, hname, hverify⟩

/-- A login puts its tokens into a session of the user it found. -/
private lemma provenance_of_login {guard} {now : Int64} {username password : StdString}
    {pair : TokenPair} (hrun : Run V guard config tr s)
    (hok : s.login V now username password = .ok (.ok pair)) :
    ∃ user, LoggedIn V config (tr ++ [loginEvent now username password pair])
        ⟨now, username, password⟩ user ∧
      JwtHandler.generate V ⟨config.jwtSecret⟩ now user.claims config.accessTokenExpiry =
        .ok (.ok pair.accessToken) ∧
      JwtHandler.generate V ⟨config.jwtSecret⟩ now user.claims config.refreshTokenExpiry =
        .ok (.ok pair.refreshToken) := by
  obtain ⟨user, hlookup, hverify, haccess, hrefresh, -⟩ := login_eq_ok_iff.mp hok
  obtain ⟨hregistered, hname⟩ := firstRegistered_of_lookup hrun hlookup
  rw [jwtHandler, config_of_run hrun] at haccess hrefresh
  exact ⟨user, ⟨tr, [], pair, rfl, hregistered, hname, hverify⟩, haccess, hrefresh⟩

/-- Every issued token comes from a genuine login, and was generated for its user. -/
theorem provenance_of_issuedAs (hjson : V.ParseUndoesDump)
    (hrun : Run V (NoForgery V config) config tr s) :
    ∀ {kind token time}, IssuedAs tr kind token time →
      ∃ user, Provenance V config tr user token ∧
        JwtHandler.generate V ⟨config.jwtSecret⟩ time user.claims (config.lifetime kind) =
          .ok (.ok token) := by
  induction hrun with
  | nil => rintro kind token time (h | h | h) <;> simp at h
  | @snoc tr s i hrun hguard ih =>
    intro kind token time hissued
    -- What was issued before the step is covered by the hypothesis; the step may issue more.
    rcases issuedAs_append_iff.mp hissued with hold | hnew
    · obtain ⟨user, hprovenance, hgen⟩ := ih hold
      exact ⟨user, hprovenance.append _, hgen⟩
    clear hissued
    obtain ⟨now, call⟩ := i
    cases call with
    | login username password =>
      by_cases hok : ∃ pair, s.login V now username password = .ok (.ok pair)
      · obtain ⟨pair, hok⟩ := hok
        obtain ⟨user, hlogin, haccess, hrefresh⟩ := provenance_of_login hrun hok
        simp only [step, hok] at hnew ⊢
        -- Either token of the pair opens the session.
        obtain ⟨rfl, ⟨rfl, rfl⟩ | ⟨rfl, rfl⟩⟩ := issuedAs_loginEvent_iff.mp hnew
        · exact ⟨user, ⟨_, .access (List.mem_append_right _ (List.mem_singleton_self _)), hlogin⟩,
            haccess⟩
        · exact ⟨user, ⟨_, .refresh (List.mem_append_right _ (List.mem_singleton_self _)), hlogin⟩,
            hrefresh⟩
      · exact absurd hnew (not_issuedAs_of_ne fun pair h => hok ⟨pair, AuthReply.tokens.inj h⟩)
    | refreshToken old =>
      by_cases hok : ∃ pair, s.refreshToken V now old = .ok (.ok pair)
      · obtain ⟨pair, hok⟩ := hok
        obtain ⟨claims, hverify, -, haccess, -⟩ := refreshToken_eq_ok_iff.mp hok
        rw [jwtHandler, config_of_run hrun] at hverify haccess
        -- The presented token is genuine, so it was issued for a user, and its claims are theirs.
        obtain ⟨kind', time', hissued⟩ := exists_issuedAs_of_verify hguard hverify
        obtain ⟨user, ⟨root, htoken, hlogin⟩, hgen⟩ := ih hissued
        obtain ⟨rfl, -⟩ := JwtHandler.accepted_of_generate hjson hgen hverify
        simp only [step, hok] at hnew ⊢
        obtain ⟨rfl, rfl, rfl⟩ := issuedAs_refreshEvent_iff.mp hnew
        refine ⟨user, ⟨root, htoken.renew _ _, ?_⟩, haccess⟩
        obtain ⟨pre, post, first, rfl, hrest⟩ := hlogin
        exact ⟨pre, post ++ [refreshEvent time old pair], first, by simp [refreshEvent], hrest⟩
      · exact absurd hnew (not_issuedAs_of_ne fun pair h => hok ⟨pair, AuthReply.tokens.inj h⟩)
    -- The other calls hand out no tokens.
    | registerUser salt userId username password role =>
      exact absurd hnew (not_issuedAs_of_ne fun pair h => by simp [step] at h)
    | logout old => exact absurd hnew (not_issuedAs_of_ne fun pair h => by simp [step] at h)
    | validateToken old => exact absurd hnew (not_issuedAs_of_ne fun pair h => by simp [step] at h)

/-- A genuine token that the handler accepts and that is not blacklisted is authentic. -/
private lemma authentic_of_verify (hjson : V.ParseUndoesDump)
    (hrun : Run V (NoForgery V config) config tr s) {now : Int64} {token : StdString}
    {claims : UserClaims} (hmac : IdealMac V config tr token) (hlive : token ∉ s.revokedTokens)
    (hverify : JwtHandler.verify V ⟨config.jwtSecret⟩ now token = .ok (.ok claims)) :
    Authentic V config tr now token claims := by
  obtain ⟨kind, time, hissued⟩ := exists_issuedAs_of_verify hmac hverify
  obtain ⟨user, hprovenance, hgen⟩ := provenance_of_issuedAs hjson hrun hissued
  obtain ⟨hclaims, hexpiry⟩ := JwtHandler.accepted_of_generate hjson hgen hverify
  refine ⟨⟨user, hprovenance, hclaims⟩, ⟨kind, time, hissued, hexpiry⟩, fun at' hlogout => ?_⟩
  exact hlive ((mem_revokedTokens_iff hrun).mpr ⟨at', hlogout⟩)

/-- Authentication soundness: in every run without forged tokens, every accepted and every
refreshed token is authentic at that moment. -/
theorem accepted_token_authentic (hjson : V.ParseUndoesDump)
    (hrun : Run V (NoForgery V config) config tr s) {pre post : AuthTrace} {now : Int64}
    {token : StdString} :
    (∀ claims, tr = pre ++ acceptEvent now token claims :: post →
      Authentic V config pre now token claims) ∧
    ∀ pair, tr = pre ++ refreshEvent now token pair :: post →
      ∃ claims, Authentic V config pre now token claims := by
  constructor
  · intro claims htr
    obtain ⟨s', hpre, hmac, hlive, hverify⟩ := verify_of_accept hrun htr
    exact authentic_of_verify hjson hpre hmac hlive hverify
  · intro pair htr
    obtain ⟨s', claims, hpre, hmac, hlive, hverify, -⟩ := exists_claims_of_refresh hrun htr
    exact ⟨claims, authentic_of_verify hjson hpre hmac hlive hverify⟩

/-- The access token of a login at time zero, accepted at time five. -/
theorem accepted_token_authentic_sample :
    ∃ tr s token claims, Run Vendor.reference (NoForgery Vendor.reference sampleConfig)
        sampleConfig (tr ++ [acceptEvent 5 token claims]) s ∧
      Authentic Vendor.reference sampleConfig tr 5 token claims := by
  obtain ⟨s, tr, hrun, hrevoked, rfl, hlogin⟩ := exists_sampleService
    (NoForgery Vendor.reference sampleConfig) .operator trivial
  obtain ⟨pair, hok, haccess, -⟩ := hlogin 0
  have hrun0 := run_login hrun trivial hok
  have hissued : IssuedAs [loginEvent 0 (lit "alice") (lit "pw") pair] .access
      pair.accessToken 0 := issuedAs_loginEvent_iff.mpr ⟨rfl, .inl ⟨rfl, rfl⟩⟩
  have hverify : s.validateToken Vendor.reference 5 pair.accessToken =
      .ok (.ok (sampleClaims .operator)) :=
    validateToken_of_generate Vendor.parseUndoesDump_reference hrun haccess (by simp [hrevoked])
      (by decide)
  have hrun1 := run_validateToken hrun0
    (idealMac_of_issuedAs (issuedAs_append_iff.mpr (.inr hissued))) hverify
  exact ⟨_, s, _, _, hrun1,
    (accepted_token_authentic Vendor.parseUndoesDump_reference hrun1).1 _ rfl⟩

end IotDashboard
