import IotDashboard.Foundation.Mealy
import IotDashboard.Security.AuthenticationService

/-!
# Runs of the authentication service

The service as a machine whose inputs are calls at arbitrary times, and what a recorded run says
about tokens: in which role each was issued, and from which login it descends.

## Main definitions

* `AuthenticationService.step`: one call;
* `IssuedAs`: a token was returned by `Login` or `RefreshToken`, as an access or refresh token;
* `SessionToken`: a token descends from a login through a chain of `RefreshToken` calls;
* `FirstRegistered`: a user record made by the first successful registration of its name.

## Main results

* `exists_generate_of_issuedAs`: issued tokens are generated for the lifetime of their kind;
* `firstRegistered_of_lookup`: the user table holds first registrations only;
* `mem_revokedTokens_iff`: the blacklist holds what `Logout` was called with.
-/

namespace IotDashboard

open StdString

/-- Adding a non-negative lifetime never overshoots: an overflow wraps to the past. -/
theorem toInt_add_le {a b : Int64} (hb : 0 ≤ b) : (a + b).toInt ≤ a.toInt + b.toInt := by
  have hb' := Int64.le_iff_toInt_le.mp hb
  have ha := a.le_toInt
  rw [Int64.toInt_zero] at hb'
  rw [Int64.toInt_add, Int.bmod_def]
  -- The sum is exact, or it wraps and lands below.
  split <;> omega

/-- A call of the service. -/
inductive AuthCall where
  | registerUser (salt : Option Salt) (userId username password : StdString) (role : Role)
  | login (username password : StdString)
  | refreshToken (token : StdString)
  | logout (token : StdString)
  | validateToken (token : StdString)

/-- What a call returns. -/
inductive AuthReply where
  | registered (r : Result Unit)
  | tokens (r : Except CxxException (Result TokenPair))
  | loggedOut
  | claims (r : Except CxxException (Result UserClaims))

/-- A call at a time, in seconds, with its reply. -/
abbrev AuthEvent := (Int64 × AuthCall) × AuthReply

/-- A recorded history, oldest first. -/
abbrev AuthTrace := List AuthEvent

namespace AuthenticationService

/-- One call. -/
def step (V : Vendor) (s : AuthenticationService) : Int64 × AuthCall →
    AuthReply × AuthenticationService
  | (_, .registerUser salt userId username password role) =>
    let r := s.registerUser V salt userId username password role
    (.registered r.1, r.2)
  | (now, .login username password) => (.tokens (s.login V now username password), s)
  | (now, .refreshToken token) => (.tokens (s.refreshToken V now token), s)
  | (_, .logout token) => (.loggedOut, s.logout token)
  | (now, .validateToken token) => (.claims (s.validateToken V now token), s)

/-- The runs from a freshly constructed service. -/
abbrev Run (V : Vendor) (guard : AuthTrace → AuthenticationService → Int64 × AuthCall → Prop)
    (config : SecurityConfig) : AuthTrace → AuthenticationService → Prop :=
  Mealy.Run (step V) guard { config := config }

end AuthenticationService

/-- The event of a successful login. -/
def loginEvent (time : Int64) (username password : StdString) (pair : TokenPair) : AuthEvent :=
  ((time, .login username password), .tokens (.ok (.ok pair)))

/-- The event of a successful refresh. -/
def refreshEvent (time : Int64) (token : StdString) (pair : TokenPair) : AuthEvent :=
  ((time, .refreshToken token), .tokens (.ok (.ok pair)))

/-- The event of a logout. -/
def logoutEvent (time : Int64) (token : StdString) : AuthEvent :=
  ((time, .logout token), .loggedOut)

/-- The role in which a token is issued. -/
inductive TokenKind where
  | access
  | refresh
deriving DecidableEq

/-- The configured lifetime of a kind of token. -/
def SecurityConfig.lifetime (config : SecurityConfig) : TokenKind → Int64
  | .access => config.accessTokenExpiry
  | .refresh => config.refreshTokenExpiry

/-- The history issued the token in the given role at the given time. -/
inductive IssuedAs (tr : AuthTrace) : TokenKind → StdString → Int64 → Prop
  | access {time username password pair} : loginEvent time username password pair ∈ tr →
      IssuedAs tr .access pair.accessToken time
  | refresh {time username password pair} : loginEvent time username password pair ∈ tr →
      IssuedAs tr .refresh pair.refreshToken time
  | renewed {time token pair} : refreshEvent time token pair ∈ tr →
      IssuedAs tr .access pair.accessToken time

/-- The call that opens a session. -/
structure LoginAt where
  time : Int64
  username : StdString
  password : StdString

/-- The token was obtained from the login `root` by a chain of `RefreshToken` calls, each fed a
token obtained earlier in the chain. -/
inductive SessionToken : AuthTrace → LoginAt → StdString → Prop
  | access {tr root pair} : loginEvent root.time root.username root.password pair ∈ tr →
      SessionToken tr root pair.accessToken
  | refresh {tr root pair} : loginEvent root.time root.username root.password pair ∈ tr →
      SessionToken tr root pair.refreshToken
  | renewed {tr pre post root token time pair} : SessionToken pre root token →
      tr = pre ++ refreshEvent time token pair :: post →
      SessionToken tr root pair.accessToken

/-- A registration of the name succeeds in this event. -/
def AuthEvent.registers (username : StdString) : AuthEvent → Prop
  | ((_, .registerUser _ _ name _ _), .registered (.ok ())) => name = username
  | _ => False

/-- The record was made by the first successful registration of its name. -/
def FirstRegistered (V : Vendor) (config : SecurityConfig) (tr : AuthTrace) (user : UserRecord) :
    Prop :=
  ∃ pre post time salt password,
    tr = pre ++ ((time, .registerUser salt user.userId user.username password user.role),
      .registered (.ok ())) :: post ∧
    (⟨config.pbkdf2Iterations⟩ : PasswordHasher).hash V salt password = .ok user.passwordHash ∧
    ∀ e ∈ pre, ¬ AuthEvent.registers user.username e

/-- The event of an accepted token. -/
def acceptEvent (time : Int64) (token : StdString) (claims : UserClaims) : AuthEvent :=
  ((time, .validateToken token), .claims (.ok (.ok claims)))

/-- An ideal MAC, for one token: if it passes the signature check, its signing input is that of a
token issued before. -/
def IdealMac (V : Vendor) (config : SecurityConfig) (tr : AuthTrace) (token : StdString) : Prop :=
  ∀ head body, JwtHandler.SignedAs V ⟨config.jwtSecret⟩ token head body →
    ∃ kind issued time, IssuedAs tr kind issued time ∧
      JwtHandler.SignedAs V ⟨config.jwtSecret⟩ issued head body

/-- No call presents a forged token. -/
def NoForgery (V : Vendor) (config : SecurityConfig) (tr : AuthTrace) (_ : AuthenticationService) :
    Int64 × AuthCall → Prop
  | (_, .refreshToken token) | (_, .validateToken token) => IdealMac V config tr token
  | _ => True

/-- The clock does not go backwards. -/
def ClockMonotone (tr : AuthTrace) (_ : AuthenticationService) (i : Int64 × AuthCall) : Prop :=
  ∀ e ∈ tr, e.1.1 ≤ i.1

/-! ## Histories only grow -/

section Histories

variable {V : Vendor} {config : SecurityConfig} {tr : AuthTrace} {e : AuthEvent}

/-- A history in two parts has issued what either part has. -/
theorem issuedAs_append_iff {tr' : AuthTrace} {kind : TokenKind} {token : StdString}
    {time : Int64} :
    IssuedAs (tr ++ tr') kind token time ↔
      IssuedAs tr kind token time ∨ IssuedAs tr' kind token time := by
  constructor
  · rintro (h | h | h) <;> rcases List.mem_append.mp h with h | h
    · exact .inl (.access h)
    · exact .inr (.access h)
    · exact .inl (.refresh h)
    · exact .inr (.refresh h)
    · exact .inl (.renewed h)
    · exact .inr (.renewed h)
  · rintro ((h | h | h) | (h | h | h))
    · exact .access (List.mem_append_left _ h)
    · exact .refresh (List.mem_append_left _ h)
    · exact .renewed (List.mem_append_left _ h)
    · exact .access (List.mem_append_right _ h)
    · exact .refresh (List.mem_append_right _ h)
    · exact .renewed (List.mem_append_right _ h)

/-- What a single login issues. -/
theorem issuedAs_loginEvent_iff {issued time : Int64} {username password : StdString}
    {pair : TokenPair} {kind : TokenKind} {token : StdString} :
    IssuedAs [loginEvent issued username password pair] kind token time ↔
      time = issued ∧ (kind = .access ∧ token = pair.accessToken ∨
        kind = .refresh ∧ token = pair.refreshToken) := by
  constructor
  · rintro (h | h | h) <;> rw [List.mem_singleton] at h <;> cases h <;> simp
  · rintro ⟨rfl, ⟨rfl, rfl⟩ | ⟨rfl, rfl⟩⟩
    · exact .access (List.mem_singleton_self _)
    · exact .refresh (List.mem_singleton_self _)

/-- What a single refresh issues. -/
theorem issuedAs_refreshEvent_iff {issued time : Int64} {old : StdString} {pair : TokenPair}
    {kind : TokenKind} {token : StdString} :
    IssuedAs [refreshEvent issued old pair] kind token time ↔
      time = issued ∧ kind = .access ∧ token = pair.accessToken := by
  constructor
  · rintro (h | h | h) <;> rw [List.mem_singleton] at h <;> cases h
    simp
  · rintro ⟨rfl, rfl, rfl⟩
    exact .renewed (List.mem_singleton_self _)

/-- An event that hands out no token pair issues nothing. -/
theorem not_issuedAs_of_ne {i : Int64 × AuthCall} {o : AuthReply} {kind : TokenKind}
    {token : StdString} {time : Int64} (ho : ∀ pair, o ≠ .tokens (.ok (.ok pair))) :
    ¬ IssuedAs [(i, o)] kind token time := by
  rintro (h | h | h) <;> rw [List.mem_singleton] at h <;>
    exact ho _ (congrArg Prod.snd h).symm

/-- A token of a session stays one. -/
theorem SessionToken.append {root : LoginAt} {token : StdString} (h : SessionToken tr root token)
    (tr' : AuthTrace) : SessionToken (tr ++ tr') root token := by
  cases h with
  | access h => exact .access (by simp [h])
  | refresh h => exact .refresh (by simp [h])
  | renewed h htr => exact .renewed h (by rw [htr, List.append_assoc, List.cons_append])

/-- A login opens a session with its access token. -/
theorem SessionToken.opened (tr : AuthTrace) (root : LoginAt) (pair : TokenPair) :
    SessionToken (tr ++ [loginEvent root.time root.username root.password pair]) root
      pair.accessToken :=
  .access (List.mem_append_right _ (List.mem_singleton_self _))

/-- A refresh goes on with the session of the old token. -/
theorem SessionToken.renew {root : LoginAt} {token : StdString} (h : SessionToken tr root token)
    (time : Int64) (pair : TokenPair) :
    SessionToken (tr ++ [refreshEvent time token pair]) root pair.accessToken :=
  .renewed h rfl

/-- Who was registered first does not change later. -/
theorem FirstRegistered.append {user : UserRecord} (h : FirstRegistered V config tr user)
    (tr' : AuthTrace) : FirstRegistered V config (tr ++ tr') user := by
  obtain ⟨pre, post, time, salt, password, rfl, hhash, hfirst⟩ := h
  exact ⟨pre, post ++ tr', time, salt, password, by simp, hhash, hfirst⟩

/-- A token of a session is one of the login's two tokens or was issued as an access token. -/
theorem SessionToken.root_or_access {root : LoginAt} {token : StdString}
    (h : SessionToken tr root token) :
    (∃ pair, loginEvent root.time root.username root.password pair ∈ tr ∧
      token = pair.refreshToken) ∨ ∃ time, IssuedAs tr .access token time := by
  cases h with
  | access h => exact .inr ⟨_, .access h⟩
  | refresh h => exact .inl ⟨_, h, rfl⟩
  | renewed h htr =>
    -- Whatever the refresh was fed, it issued an access token.
    subst htr
    exact .inr ⟨_, .renewed (List.mem_append_right _ (List.mem_cons_self ..))⟩

end Histories

/-! ## What a run records -/

namespace AuthenticationService

variable {V : Vendor} {guard : AuthTrace → AuthenticationService → Int64 × AuthCall → Prop}
  {config : SecurityConfig} {tr : AuthTrace} {s : AuthenticationService}

/-- A successful login extends a run by its event. -/
theorem run_login {now : Int64} {username password : StdString} {pair : TokenPair}
    (hrun : Run V guard config tr s) (hguard : guard tr s (now, .login username password))
    (hok : s.login V now username password = .ok (.ok pair)) :
    Run V guard config (tr ++ [loginEvent now username password pair]) s := by
  have hnext := hrun.snoc _ hguard
  simp only [step, hok] at hnext
  exact hnext

/-- A successful refresh extends a run by its event. -/
theorem run_refreshToken {now : Int64} {token : StdString} {pair : TokenPair}
    (hrun : Run V guard config tr s) (hguard : guard tr s (now, .refreshToken token))
    (hok : s.refreshToken V now token = .ok (.ok pair)) :
    Run V guard config (tr ++ [refreshEvent now token pair]) s := by
  have hnext := hrun.snoc _ hguard
  simp only [step, hok] at hnext
  exact hnext

/-- An accepted token extends a run by its event. -/
theorem run_validateToken {now : Int64} {token : StdString} {claims : UserClaims}
    (hrun : Run V guard config tr s) (hguard : guard tr s (now, .validateToken token))
    (hok : s.validateToken V now token = .ok (.ok claims)) :
    Run V guard config (tr ++ [acceptEvent now token claims]) s := by
  have hnext := hrun.snoc _ hguard
  simp only [step, hok] at hnext
  exact hnext

/-- A logout extends a run by its event. -/
theorem run_logout (now : Int64) (token : StdString) (hrun : Run V guard config tr s)
    (hguard : guard tr s (now, .logout token)) :
    Run V guard config (tr ++ [logoutEvent now token]) (s.logout token) :=
  hrun.snoc _ hguard

/-- A call keeps the configuration. -/
theorem config_step (s : AuthenticationService) (i : Int64 × AuthCall) :
    (step V s i).2.config = s.config := by
  obtain ⟨now, call⟩ := i
  cases call with
  | registerUser salt userId username password role =>
    show (s.registerUser V salt userId username password role).2.config = s.config
    rcases registerUser_cases (V := V) (s := s) with ⟨e, h⟩ | ⟨hash, -, -, h⟩ <;> rw [h]
  | _ => rfl

/-- The configuration never changes. -/
theorem config_of_run (hrun : Run V guard config tr s) : s.config = config := by
  -- No call writes the configuration.
  refine hrun.invariant (P := fun s => s.config = config) rfl fun _ s i hs _ => ?_
  rw [config_step, hs]

/-- The state in which a recorded call was made. -/
theorem exists_state_of_split {pre post : AuthTrace} {i : Int64 × AuthCall} {o : AuthReply}
    (hrun : Run V guard config tr s) (htr : tr = pre ++ (i, o) :: post) :
    ∃ s', Run V guard config pre s' ∧ s'.config = config ∧ guard pre s' i ∧
      o = (step V s' i).1 := by
  obtain ⟨s', hpre, hguard, ho⟩ := hrun.guard_of_append htr
  exact ⟨s', hpre, config_of_run hpre, hguard, ho⟩

/-- A recorded login found a user whose stored hash verifies, and issued tokens for that user. -/
theorem exists_user_of_login {pre post : AuthTrace} {time : Int64} {username password : StdString}
    {pair : TokenPair} (hrun : Run V guard config tr s)
    (htr : tr = pre ++ loginEvent time username password pair :: post) :
    ∃ s' user, Run V guard config pre s' ∧ s'.users.lookup username = some user ∧
      PasswordHasher.verify V password user.passwordHash = true ∧
      JwtHandler.generate V ⟨config.jwtSecret⟩ time user.claims config.accessTokenExpiry =
        .ok (.ok pair.accessToken) ∧
      JwtHandler.generate V ⟨config.jwtSecret⟩ time user.claims config.refreshTokenExpiry =
        .ok (.ok pair.refreshToken) := by
  -- The recorded reply is what `Login` returned in the state of that moment.
  obtain ⟨s', hpre, rfl, -, ho⟩ := exists_state_of_split hrun htr
  obtain ⟨user, hlookup, hverify, haccess, hrefresh, -⟩ :=
    login_eq_ok_iff.mp (AuthReply.tokens.inj ho).symm
  exact ⟨s', user, hpre, hlookup, hverify, haccess, hrefresh⟩

/-- A recorded refresh was given an accepted token that was not logged out, and issued a token for
the same claims. -/
theorem exists_claims_of_refresh {pre post : AuthTrace} {time : Int64} {token : StdString}
    {pair : TokenPair} (hrun : Run V guard config tr s)
    (htr : tr = pre ++ refreshEvent time token pair :: post) :
    ∃ s' claims, Run V guard config pre s' ∧ guard pre s' (time, .refreshToken token) ∧
      token ∉ s'.revokedTokens ∧
      JwtHandler.verify V ⟨config.jwtSecret⟩ time token = .ok (.ok claims) ∧
      JwtHandler.generate V ⟨config.jwtSecret⟩ time claims config.accessTokenExpiry =
        .ok (.ok pair.accessToken) := by
  obtain ⟨s', hpre, rfl, hguard, ho⟩ := exists_state_of_split hrun htr
  obtain ⟨claims, hverify, hlive, haccess, -⟩ :=
    refreshToken_eq_ok_iff.mp (AuthReply.tokens.inj ho).symm
  exact ⟨s', claims, hpre, hguard, hlive, hverify, haccess⟩

/-- An issued token was generated for the lifetime of its kind. -/
theorem exists_generate_of_issuedAs {kind : TokenKind} {token : StdString} {time : Int64}
    (hrun : Run V guard config tr s) (h : IssuedAs tr kind token time) :
    ∃ claims, JwtHandler.generate V ⟨config.jwtSecret⟩ time claims (config.lifetime kind) =
      .ok (.ok token) := by
  -- A login issues one token for each lifetime, a refresh one for the access lifetime.
  cases h with
  | access h =>
    obtain ⟨pre, post, htr⟩ := List.append_of_mem h
    obtain ⟨s', user, -, -, -, haccess, -⟩ := exists_user_of_login hrun htr
    exact ⟨user.claims, haccess⟩
  | refresh h =>
    obtain ⟨pre, post, htr⟩ := List.append_of_mem h
    obtain ⟨s', user, -, -, -, -, hrefresh⟩ := exists_user_of_login hrun htr
    exact ⟨user.claims, hrefresh⟩
  | renewed h =>
    obtain ⟨pre, post, htr⟩ := List.append_of_mem h
    obtain ⟨s', claims, -, -, -, -, haccess⟩ := exists_claims_of_refresh hrun htr
    exact ⟨claims, haccess⟩

/-- A recorded acceptance: the token was neither logged out nor refused. -/
theorem verify_of_accept {pre post : AuthTrace} {now : Int64} {token : StdString}
    {claims : UserClaims} (hrun : Run V guard config tr s)
    (htr : tr = pre ++ acceptEvent now token claims :: post) :
    ∃ s', Run V guard config pre s' ∧ guard pre s' (now, .validateToken token) ∧
      token ∉ s'.revokedTokens ∧
      JwtHandler.verify V ⟨config.jwtSecret⟩ now token = .ok (.ok claims) := by
  obtain ⟨s', hpre, rfl, hguard, ho⟩ := exists_state_of_split hrun htr
  obtain ⟨hlive, hverify⟩ := validateToken_eq_ok_iff.mp (AuthReply.claims.inj ho).symm
  exact ⟨s', hpre, hguard, hlive, hverify⟩

/-- A generated token is accepted with its claims until it expires or is logged out. -/
theorem validateToken_of_generate (hjson : V.ParseUndoesDump) (hrun : Run V guard config tr s)
    {iat e now : Int64} {claims : UserClaims} {token : StdString}
    (hgen : JwtHandler.generate V ⟨config.jwtSecret⟩ iat claims e = .ok (.ok token))
    (hlive : token ∉ s.revokedTokens) (hexpiry : now ≤ iat + e) :
    s.validateToken V now token = .ok (.ok claims) := by
  refine validateToken_eq_ok_iff.mpr ⟨hlive, ?_⟩
  rw [jwtHandler, config_of_run hrun, JwtHandler.verify_of_generate hjson hgen,
    if_neg (Int64.not_lt.mpr hexpiry)]

/-- Under an ideal MAC, an accepted token was issued. -/
theorem exists_issuedAs_of_verify {token : StdString} {now : Int64} {claims : UserClaims}
    (hmac : IdealMac V config tr token)
    (hverify : JwtHandler.verify V ⟨config.jwtSecret⟩ now token = .ok (.ok claims)) :
    ∃ kind time, IssuedAs tr kind token time := by
  obtain ⟨head, body, hsigned⟩ := JwtHandler.signedAs_of_verify hverify
  obtain ⟨kind, issued, time, hissued, hsame⟩ := hmac head body hsigned
  -- Two tokens with one signing input are equal, because the signature is a function of it.
  rw [JwtHandler.eq_of_signedAs hsigned hsame]
  exact ⟨kind, time, hissued⟩

/-- An issued token is not forged. -/
theorem idealMac_of_issuedAs {kind : TokenKind} {token : StdString} {time : Int64}
    (h : IssuedAs tr kind token time) : IdealMac V config tr token :=
  fun _ _ hsigned => ⟨kind, token, time, h, hsigned⟩

/-- A name registered before is in the user table. -/
private lemma mem_users_of_registers {username : StdString} (hrun : Run V guard config tr s) :
    (∃ e ∈ tr, AuthEvent.registers username e) → username ∈ s.users := by
  refine hrun.historyInvariant
    (P := fun tr s => (∃ e ∈ tr, AuthEvent.registers username e) → username ∈ s.users)
    (by simp) fun tr s i ih _ => ?_
  rintro ⟨e, he, hregisters⟩
  obtain ⟨now, call⟩ := i
  cases call with
  | registerUser salt userId name password role =>
    show username ∈ (s.registerUser V salt userId name password role).2.users
    -- The registration is an earlier one, which the table keeps, or the one just made.
    rcases List.mem_append.mp he with he | he
    · rcases registerUser_cases (V := V) (s := s) with ⟨x, h⟩ | ⟨hash, -, -, h⟩ <;> rw [h]
      · exact ih ⟨e, he, hregisters⟩
      · exact (AList.mem_insert _).mpr (.inr (ih ⟨e, he, hregisters⟩))
    · rw [List.mem_singleton] at he
      subst he
      change AuthEvent.registers username
        ((now, .registerUser salt userId name password role),
          .registered (s.registerUser V salt userId name password role).1) at hregisters
      rcases registerUser_cases (V := V) (s := s) with ⟨x, h⟩ | ⟨hash, -, -, h⟩ <;>
        rw [h] at hregisters ⊢
      · exact absurd hregisters (by simp [AuthEvent.registers])
      · exact (AList.mem_insert _).mpr (.inl (by simpa [AuthEvent.registers] using hregisters.symm))
  | _ =>
    rcases List.mem_append.mp he with he | he
    · exact ih ⟨e, he, hregisters⟩
    · rw [List.mem_singleton] at he
      subst he
      exact absurd hregisters (by simp [AuthEvent.registers])

/-- The user table holds first registrations only, each under its own name. -/
theorem firstRegistered_of_lookup {username : StdString} {user : UserRecord}
    (hrun : Run V guard config tr s) (hlookup : s.users.lookup username = some user) :
    FirstRegistered V config tr user ∧ user.username = username := by
  induction hrun with
  | nil => simp at hlookup
  | @snoc tr s i hrun _ ih =>
    -- A record that was there before the step was made by the history before it.
    have hold : s.users.lookup username = some user →
        FirstRegistered V config (tr ++ [(i, (step V s i).1)]) user ∧ user.username = username :=
      fun h => ⟨(ih h).1.append _, (ih h).2⟩
    obtain ⟨now, call⟩ := i
    cases call with
    | registerUser salt userId name password role =>
      change (s.registerUser V salt userId name password role).2.users.lookup username = _
        at hlookup
      change s.users.lookup username = some user → FirstRegistered V config (tr ++
        [((now, .registerUser salt userId name password role),
          .registered (s.registerUser V salt userId name password role).1)]) user ∧ _ at hold
      show FirstRegistered V config (tr ++
        [((now, .registerUser salt userId name password role),
          .registered (s.registerUser V salt userId name password role).1)]) user ∧ _
      rcases registerUser_cases (V := V) (s := s) with ⟨x, h⟩ | ⟨hash, hhash, hnew, h⟩ <;>
        rw [h] at hlookup hold ⊢
      · exact hold hlookup
      · -- The insert made the record of `name` and left the others.
        by_cases hname : username = name
        · -- The new record; no earlier event registered its name, or the table would hold it.
          subst hname
          rw [AList.lookup_insert, Option.some.injEq] at hlookup
          subst hlookup
          refine ⟨⟨tr, [], now, salt, password, rfl, ?_, fun e he hregisters => ?_⟩, rfl⟩
          · rw [← config_of_run hrun]
            exact hhash
          · exact hnew (mem_users_of_registers hrun ⟨e, he, hregisters⟩)
        · rw [AList.lookup_insert_ne hname] at hlookup
          exact hold hlookup
    | _ => exact hold hlookup

/-- The blacklist holds exactly what `Logout` was called with. -/
theorem mem_revokedTokens_iff {token : StdString} (hrun : Run V guard config tr s) :
    token ∈ s.revokedTokens ↔ ∃ time, logoutEvent time token ∈ tr := by
  induction hrun with
  | nil => simp
  | @snoc tr s i hrun _ ih =>
    obtain ⟨now, call⟩ := i
    cases call with
    | registerUser salt userId name password role =>
      show token ∈ (s.registerUser V salt userId name password role).2.revokedTokens ↔ _
      rcases registerUser_cases (V := V) (s := s) with ⟨x, h⟩ | ⟨hash, -, -, h⟩ <;> rw [h] <;>
        simp [ih, logoutEvent]
    | logout other =>
      -- The only call that writes the blacklist, and no call takes a token off it.
      show token ∈ (s.logout other).revokedTokens ↔ _
      rw [mem_revokedTokens_logout, ih]
      simp only [logoutEvent, step, List.mem_append, List.mem_singleton, Prod.mk.injEq,
        AuthCall.logout.injEq, and_true, exists_or, exists_eq_left, or_comm]
    | _ => simp [step, ih, logoutEvent]

/-! ## A service with one user -/

/-- Short lifetimes and one iteration. -/
def sampleConfig : SecurityConfig where
  jwtSecret := lit "secret"
  accessTokenExpiry := 10
  refreshTokenExpiry := 20
  pbkdf2Iterations := 1

/-- The claims of the user. -/
def sampleClaims (role : Role) : UserClaims := ⟨lit "u-1", lit "alice", role⟩

/-- The registration of the user. -/
def sampleRegistration (role : Role) : AuthCall :=
  .registerUser (some ⟨List.replicate 16 0, rfl⟩) (lit "u-1") (lit "alice") (lit "pw") role

/-- After the registration at time zero, the user's logins succeed. -/
theorem exists_sampleService
    (guard : AuthTrace → AuthenticationService → Int64 × AuthCall → Prop) (role : Role)
    (hguard : guard [] { config := sampleConfig } (0, sampleRegistration role)) :
    ∃ s tr, Run Vendor.reference guard sampleConfig tr s ∧ s.revokedTokens = ∅ ∧
      tr = [((0, sampleRegistration role), .registered (.ok ()))] ∧
      ∀ now, ∃ pair, s.login Vendor.reference now (lit "alice") (lit "pw") = .ok (.ok pair) ∧
        JwtHandler.generate Vendor.reference ⟨sampleConfig.jwtSecret⟩ now (sampleClaims role) 10 =
          .ok (.ok pair.accessToken) ∧
        JwtHandler.generate Vendor.reference ⟨sampleConfig.jwtSecret⟩ now (sampleClaims role) 20 =
          .ok (.ok pair.refreshToken) := by
  obtain ⟨stored, hstored⟩ : ∃ stored, (⟨1⟩ : PasswordHasher).hash Vendor.reference
      (some ⟨List.replicate 16 0, rfl⟩) (lit "pw") = .ok stored := ⟨_, rfl⟩
  let user : UserRecord := ⟨lit "u-1", lit "alice", stored, role⟩
  have hregister : ({ config := sampleConfig } : AuthenticationService).registerUser
      Vendor.reference (some ⟨List.replicate 16 0, rfl⟩) (lit "u-1") (lit "alice") (lit "pw") role =
      (.ok (), { config := sampleConfig, users := AList.insert (lit "alice") user ∅ }) := by
    rw [registerUser, show hasher _ = ⟨1⟩ from rfl, hstored]
    rfl
  -- The run consists of the registration alone.
  refine ⟨{ config := sampleConfig, users := AList.insert (lit "alice") user ∅ }, _, ?_, rfl, rfl,
    fun now => ?_⟩
  · have hstart : Run Vendor.reference guard sampleConfig [] _ := .nil
    have hnext := hstart.snoc _ hguard
    simp only [step, sampleRegistration, hregister, List.nil_append] at hnext
    exact hnext
  · obtain ⟨access, haccess⟩ := JwtHandler.exists_generate (h := ⟨sampleConfig.jwtSecret⟩)
      Vendor.dumpsUtf8_reference (rfl : (sampleClaims role).userId.isUtf8 = true)
      rfl now 10
    obtain ⟨refresh, hrefresh⟩ := JwtHandler.exists_generate (h := ⟨sampleConfig.jwtSecret⟩)
      Vendor.dumpsUtf8_reference (rfl : (sampleClaims role).userId.isUtf8 = true)
      rfl now 20
    exact ⟨⟨access, refresh, 10⟩, login_eq_ok_iff.mpr ⟨user, AList.lookup_insert _,
      PasswordHasher.verify_hash hstored, haccess, hrefresh, rfl⟩, haccess, hrefresh⟩

end AuthenticationService

end IotDashboard
