import IotDashboard.Security.JwtHandler
import IotDashboard.Security.PasswordHasher
import Mathlib.Data.Finset.Insert
import Mathlib.Data.List.AList

/-!
# Authentication service

`AuthenticationService`: users in memory, tokens that carry their own claims, and a blacklist of
token texts filled by `Logout`. Each operation reads the clock as a number of seconds `now`; the
operations that leave the service unchanged return their result only.

The `_eq_ok_iff` lemmas say exactly when an operation succeeds and with what; callers use these
and never unfold the operations.
-/

namespace IotDashboard

open StdString

/-- `SecurityConfig`. -/
structure SecurityConfig where
  jwtSecret : StdString := lit "change-me-in-production"
  accessTokenExpiry : Int64 := 3600
  refreshTokenExpiry : Int64 := 86400 * 30
  pbkdf2Iterations : UInt32 := 600000

/-- `UserRecord`. -/
structure UserRecord where
  userId : StdString
  username : StdString
  passwordHash : StdString
  role : Role := .viewer
deriving DecidableEq

/-- The claims issued to a user. -/
def UserRecord.claims (user : UserRecord) : UserClaims := ⟨user.userId, user.username, user.role⟩

/-- `core::TokenPair`. -/
structure TokenPair where
  accessToken : StdString
  refreshToken : StdString := []
  expiresInSeconds : UInt32 := 0
deriving DecidableEq

/-- `AuthenticationService`: the users are keyed by name. -/
structure AuthenticationService where
  config : SecurityConfig
  users : AList (fun _ : StdString => UserRecord) := ∅
  revokedTokens : Finset StdString := ∅

namespace AuthenticationService

variable (V : Vendor) (s : AuthenticationService)

/-- `m_jwtHandler`. -/
def jwtHandler : JwtHandler := ⟨s.config.jwtSecret⟩

/-- `m_hasher`. -/
def hasher : PasswordHasher := ⟨s.config.pbkdf2Iterations⟩

/-- `static_cast<uint32_t>( m_config.m_accessTokenExpiry.count() )`. -/
def expiresIn : UInt32 := UInt32.ofInt s.config.accessTokenExpiry.toInt

/-- `RegisterUser`. -/
def registerUser (salt : Option Salt) (userId username password : StdString) (role : Role) :
    Result Unit × AuthenticationService :=
  match s.hasher.hash V salt password with
  | .error e => (.error e, s)
  | .ok passwordHash =>
    -- The hash is computed before the name is looked up.
    if username ∈ s.users then (.error .invalidInput, s)
    else
      (.ok (), { s with users := s.users.insert username ⟨userId, username, passwordHash, role⟩ })

/-- `Login`. Each `Generate` reads the clock for itself; here one reading serves both. -/
def login (now : Int64) (username password : StdString) :
    Except CxxException (Result TokenPair) :=
  match s.users.lookup username with
  | none => return .error .authenticationFailed
  | some user =>
    if ¬ PasswordHasher.verify V password user.passwordHash then
      return .error .authenticationFailed
    else do
      let claims := user.claims
      match ← s.jwtHandler.generate V now claims s.config.accessTokenExpiry with
      | .error e => return .error e
      | .ok accessToken =>
        match ← s.jwtHandler.generate V now claims s.config.refreshTokenExpiry with
        | .error e => return .error e
        | .ok refreshToken => return .ok ⟨accessToken, refreshToken, s.expiresIn⟩

/-- `RefreshToken`, with one reading of the clock for the check and the new token. -/
def refreshToken (now : Int64) (token : StdString) :
    Except CxxException (Result TokenPair) := do
  match ← s.jwtHandler.verify V now token with
  | .error e => return .error e
  | .ok claims =>
    if token ∈ s.revokedTokens then return .error .tokenExpired
    else
      -- Any kind of token will do; the answer holds no refresh token.
      match ← s.jwtHandler.generate V now claims s.config.accessTokenExpiry with
      | .error e => return .error e
      | .ok accessToken => return .ok ⟨accessToken, [], s.expiresIn⟩

/-- `Logout`, which always succeeds. -/
def logout (token : StdString) : AuthenticationService :=
  { s with revokedTokens := insert token s.revokedTokens }

/-- `ValidateToken`. -/
def validateToken (now : Int64) (token : StdString) :
    Except CxxException (Result UserClaims) :=
  if token ∈ s.revokedTokens then return .error .tokenExpired
  else s.jwtHandler.verify V now token

variable {V s}

/-- `Login` succeeds for a user whose stored hash verifies, with two tokens for that user. -/
theorem login_eq_ok_iff {now : Int64} {username password : StdString} {pair : TokenPair} :
    s.login V now username password = .ok (.ok pair) ↔
      ∃ user, s.users.lookup username = some user ∧
        PasswordHasher.verify V password user.passwordHash = true ∧
        s.jwtHandler.generate V now user.claims s.config.accessTokenExpiry =
          .ok (.ok pair.accessToken) ∧
        s.jwtHandler.generate V now user.claims s.config.refreshTokenExpiry =
          .ok (.ok pair.refreshToken) ∧
        pair.expiresInSeconds = s.expiresIn := by
  obtain ⟨access, refresh, expires⟩ := pair
  unfold login
  cases hlookup : s.users.lookup username with
  | none => simp [pure, Except.pure]
  | some user =>
    by_cases hverify : PasswordHasher.verify V password user.passwordHash = true
    · -- Both tokens have to be generated; an error of either is passed on.
      simp only [hverify, not_true_eq_false, if_false, Option.some.injEq, exists_eq_left',
        true_and, bind, Except.bind, pure, Except.pure]
      rcases s.jwtHandler.generate V now user.claims s.config.accessTokenExpiry with
        x | (e | token) <;> simp
      rcases s.jwtHandler.generate V now user.claims s.config.refreshTokenExpiry with
        x | (e | token') <;> simp
      grind
    · simp [hverify, pure, Except.pure]

/-- `Login` returns unless it is for a user whose claims cannot be put into a token. -/
theorem exists_login_iff (hdumps : V.DumpsUtf8) (honly : V.DumpsOnlyUtf8) {now : Int64}
    {username password : StdString} :
    (∃ result, s.login V now username password = .ok result) ↔
      ∀ user, s.users.lookup username = some user →
        PasswordHasher.verify V password user.passwordHash = true →
        user.userId.isUtf8 = true ∧ user.username.isUtf8 = true := by
  unfold login
  cases hlookup : s.users.lookup username with
  | none => exact iff_of_true ⟨_, rfl⟩ fun user huser => by cases huser
  | some user =>
    dsimp only
    split
    · next hverify =>
      refine iff_of_true ⟨_, rfl⟩ fun user' huser hverify' => ?_
      cases huser
      exact absurd hverify' hverify
    · next hverify =>
      constructor
      · rintro ⟨result, hresult⟩ user' huser -
        cases huser
        obtain ⟨access, haccess, -⟩ := Except.exists_of_bind_eq_ok hresult
        exact (JwtHandler.exists_generate_iff hdumps honly).mp ⟨access, haccess⟩
      · intro h
        obtain ⟨huserId, husername⟩ := h user rfl (not_not.mp hverify)
        have hgen : ∀ e, ∃ token, s.jwtHandler.generate V now user.claims e = .ok (.ok token) :=
          JwtHandler.exists_generate hdumps huserId husername now
        obtain ⟨access, haccess⟩ := hgen s.config.accessTokenExpiry
        obtain ⟨refresh, hrefresh⟩ := hgen s.config.refreshTokenExpiry
        rw [haccess]
        show ∃ result, (s.jwtHandler.generate V now user.claims s.config.refreshTokenExpiry >>= _) =
          .ok result
        rw [hrefresh]
        exact ⟨_, rfl⟩

/-- `RefreshToken` succeeds for an accepted token that was not revoked, with a token for the same
claims. -/
theorem refreshToken_eq_ok_iff {now : Int64} {token : StdString} {pair : TokenPair} :
    s.refreshToken V now token = .ok (.ok pair) ↔
      ∃ claims, s.jwtHandler.verify V now token = .ok (.ok claims) ∧ token ∉ s.revokedTokens ∧
        s.jwtHandler.generate V now claims s.config.accessTokenExpiry =
          .ok (.ok pair.accessToken) ∧
        pair.refreshToken = [] ∧ pair.expiresInSeconds = s.expiresIn := by
  obtain ⟨access, refresh, expires⟩ := pair
  unfold refreshToken
  -- First the token is verified, then the blacklist is asked, then the new token is made.
  rcases s.jwtHandler.verify V now token with x | (e | claims)
  · simp [bind, Except.bind]
  · simp [bind, Except.bind, pure, Except.pure]
  · by_cases hrevoked : token ∈ s.revokedTokens
    · simp [bind, Except.bind, pure, Except.pure, hrevoked]
    · simp only [bind, Except.bind, pure, Except.pure, hrevoked, if_false, Except.ok.injEq,
        exists_eq_left', not_false_eq_true, true_and]
      rcases s.jwtHandler.generate V now claims s.config.accessTokenExpiry with
        x | (e | access') <;> simp
      grind

/-- A live token can be refreshed. -/
theorem exists_refreshToken (hjson : V.ParseUndoesDump) (hdumps : V.DumpsUtf8)
    {claims : UserClaims} (huserId : claims.userId.isUtf8 = true)
    (husername : claims.username.isUtf8 = true) {iat e : Int64} (now : Int64) {token : StdString}
    (hgen : s.jwtHandler.generate V iat claims e = .ok (.ok token)) (hlive : now ≤ iat + e)
    (hrevoked : token ∉ s.revokedTokens) :
    ∃ pair, s.refreshToken V now token = .ok (.ok pair) ∧
      s.jwtHandler.generate V now claims s.config.accessTokenExpiry =
        .ok (.ok pair.accessToken) := by
  obtain ⟨access, haccess⟩ := JwtHandler.exists_generate (h := s.jwtHandler) hdumps huserId
    husername now s.config.accessTokenExpiry
  have hverify : s.jwtHandler.verify V now token = .ok (.ok claims) := by
    rw [JwtHandler.verify_of_generate hjson hgen, if_neg (Int64.not_lt.mpr hlive)]
  exact ⟨⟨access, [], s.expiresIn⟩,
    refreshToken_eq_ok_iff.mpr ⟨claims, hverify, hrevoked, haccess, rfl, rfl⟩, haccess⟩

/-- `ValidateToken` succeeds for an accepted token that was not revoked. -/
theorem validateToken_eq_ok_iff {now : Int64} {token : StdString} {claims : UserClaims} :
    s.validateToken V now token = .ok (.ok claims) ↔
      token ∉ s.revokedTokens ∧ s.jwtHandler.verify V now token = .ok (.ok claims) := by
  unfold validateToken
  split <;> simp_all [pure, Except.pure]

/-- A revoked token is refused. -/
theorem validateToken_of_revoked {now : Int64} {token : StdString}
    (h : token ∈ s.revokedTokens) :
    s.validateToken V now token = .ok (.error .tokenExpired) := by
  rw [validateToken, if_pos h]
  rfl

/-- What `RegisterUser` can do: fail and change nothing, or add a user under a new name. -/
theorem registerUser_cases {salt : Option Salt} {userId username password : StdString}
    {role : Role} :
    (∃ e, s.registerUser V salt userId username password role = (.error e, s)) ∨
    ∃ passwordHash, s.hasher.hash V salt password = .ok passwordHash ∧ username ∉ s.users ∧
      s.registerUser V salt userId username password role =
        (.ok (), { s with
          users := s.users.insert username ⟨userId, username, passwordHash, role⟩ }) := by
  unfold registerUser
  split
  · exact .inl ⟨_, rfl⟩
  · next passwordHash hhash =>
    split
    · exact .inl ⟨_, rfl⟩
    · next hnew => exact .inr ⟨passwordHash, hhash, hnew, rfl⟩

/-- `Logout` keeps what was revoked before. -/
theorem mem_revokedTokens_logout {token other : StdString} :
    other ∈ (s.logout token).revokedTokens ↔ other = token ∨ other ∈ s.revokedTokens := by
  simp [logout]

end AuthenticationService

end IotDashboard
