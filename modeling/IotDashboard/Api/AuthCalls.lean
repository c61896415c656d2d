import IotDashboard.Api.Gate
import IotDashboard.Api.QuietRoutes
import IotDashboard.Api.WiredFrames
import IotDashboard.Security.Sessions

/-!
# The authentication service behind HTTP

`SeedAdminUser` registers one user when the application starts, and from then on the service is
reached through the three routes for logging in, refreshing and logging out, and through the
middlewares, which only ask it. So the requests and their answers show every call that changes the
service or hands out a token.

## Main definitions

* `Application.initializeSecurity`: the service as the application makes it;
* `WiredInput.authEvent`: the call of the service that a request and its answer show;
* `Wired.calls`: the calls that a history shows, after the registration at the start;
* `Presents`: no request presents a forged token.

## Main results

* `ofJson_toJson`: the tokens are read off the answer;
* `follows_request`: a request leaves the service where the call that it shows leads.
-/

namespace IotDashboard

open StdString

/-! ## The start -/

/-- The registration in `Application::SeedAdminUser`. -/
def adminRegistration (salt : Option Salt) : AuthCall :=
  .registerUser salt (lit "admin-001") (lit "admin") (lit "admin123") .admin

/-- The claims of the user whom it registers. -/
def adminClaims : UserClaims := ⟨lit "admin-001", lit "admin", .admin⟩

/-- `Application::SeedAdminUser`, which drops the result. -/
def Application.seedAdminUser (V : Vendor) (salt : Option Salt)
    (authService : AuthenticationService) : AuthenticationService :=
  (authService.registerUser V salt (lit "admin-001") (lit "admin") (lit "admin123") .admin).2

/-- The part of `Application::Initialize` that makes the service. -/
def Application.initializeSecurity (V : Vendor) (salt : Option Salt) (secCfg : SecurityConfig) :
    AuthenticationService :=
  Application.seedAdminUser V salt { config := secCfg }

/-! ## What requests and answers show -/

/-- What `read` makes of a text that parses. -/
def Vendor.readText {α : Type} (V : Vendor) (read : Json → Option α) (text : StdString) :
    Option α :=
  (V.parse text).toOption.bind read

/-- The name and the password in the body of a login. -/
def readCredentials (body : Json) : Option (StdString × StdString) := do
  let username ← (body.value Json.getString (lit "username") []).toOption
  let password ← (body.value Json.getString (lit "password") []).toOption
  some (username, password)

/-- The token in the body of a refresh. -/
def readRefreshToken (body : Json) : Option StdString :=
  (body.value Json.getString (lit "refresh_token") []).toOption

/-- The tokens in an answer. -/
def TokenPair.ofJson (j : Json) : Option TokenPair := do
  let accessToken ← (j.value Json.getString (lit "access_token") []).toOption
  let refreshToken ← (j.value Json.getString (lit "refresh_token") []).toOption
  let expiresIn ← (j.value Json.getInt64 (lit "expires_in") 0).toOption
  some ⟨accessToken, refreshToken, UInt32.ofInt expiresIn.toInt⟩

/-- The object that a login is answered with. -/
def TokenPair.toJson (pair : TokenPair) : Json :=
  .mkObject [(lit "access_token", .string pair.accessToken),
    (lit "refresh_token", .string pair.refreshToken),
    (lit "expires_in", .number pair.expiresInSeconds.toNat),
    (lit "token_type", .string (lit "Bearer"))]

/-- The object that a refresh is answered with. -/
def TokenPair.toRenewedJson (pair : TokenPair) : Json :=
  .mkObject [(lit "access_token", .string pair.accessToken),
    (lit "expires_in", .number pair.expiresInSeconds.toNat),
    (lit "token_type", .string (lit "Bearer"))]

/-- The request has the method and the path of one of the three routes. -/
def IsAuthRoute (req : HttpRequest) (path : StdString) : Prop :=
  req.method = .post ∧ req.path = path

instance (req : HttpRequest) (path : StdString) : Decidable (IsAuthRoute req path) :=
  inferInstanceAs (Decidable (_ ∧ _))

/-- The call of the service that a request and its answer show. -/
def WiredInput.authEvent (V : Vendor) : WiredInput → WiredOutput → Option AuthEvent
  | .request env _ bReq, .response res =>
    let req := HttpSession.beastToApp bReq
    if IsAuthRoute req (lit "/auth/login") ∧ res.status = 200 then do
      let (username, password) ← V.readText readCredentials req.body
      let pair ← V.readText TokenPair.ofJson res.body
      some (loginEvent env.now.seconds username password pair)
    else if IsAuthRoute req (lit "/auth/refresh") ∧ res.status = 200 then do
      let token ← V.readText readRefreshToken req.body
      let pair ← V.readText TokenPair.ofJson res.body
      some (refreshEvent env.now.seconds token pair)
    -- The handler cuts the token out of the header in the same way.
    else if IsAuthRoute req (lit "/auth/logout") ∧ res.status = 204 then
      some (logoutEvent env.now.seconds ((req.getHeader authorization).substrFrom 7))
    else none
  | _, _ => none

/-- The calls that a history shows, after the registration at the start. -/
def Wired.calls (V : Vendor) (salt : Option Salt) (config : SecurityConfig) (tr : WiredTrace) :
    AuthTrace :=
  ((0, adminRegistration salt), (AuthenticationService.step V { config }
    (0, adminRegistration salt)).1) :: tr.filterMap fun e => e.1.authEvent V e.2

/-- A request presents no forged token: neither in its header nor, to be refreshed, in its body. -/
def Presents (V : Vendor) (config : SecurityConfig) (calls : AuthTrace) : WiredInput → Prop
  | .request _ _ bReq =>
    let req := HttpSession.beastToApp bReq
    (∀ token, req.getHeader authorization = bearer ++ token → IdealMac V config calls token) ∧
      ∀ token, IsAuthRoute req (lit "/auth/refresh") →
        V.readText readRefreshToken req.body = some token → IdealMac V config calls token
  | _ => True

section Events

open HttpSession (beastToApp)

variable {V : Vendor} {config : SecurityConfig} {salt : Option Salt} {tr : WiredTrace} {env : Env}
  {enableCors : Bool} {bReq : RawRequest} {req : HttpRequest}

/-- No request has two of the routes. -/
theorem IsAuthRoute.not_other {path other : StdString} (h : IsAuthRoute req path)
    (hne : path ≠ other) : ¬ IsAuthRoute req other :=
  fun h' => hne (h.2.symm.trans h'.2)

/-- A request shows no call unless it has one of the three routes, and the status of success. -/
theorem authEvent_eq_none {res : HttpResponse}
    (hlogin : ¬ (IsAuthRoute (beastToApp bReq) (lit "/auth/login") ∧ res.status = 200))
    (hrefresh : ¬ (IsAuthRoute (beastToApp bReq) (lit "/auth/refresh") ∧ res.status = 200))
    (hlogout : ¬ (IsAuthRoute (beastToApp bReq) (lit "/auth/logout") ∧ res.status = 204)) :
    (WiredInput.request env enableCors bReq).authEvent V (.response res) = none := by
  rw [WiredInput.authEvent]
  dsimp only
  rw [if_neg hlogin, if_neg hrefresh, if_neg hlogout]

/-- What a login shows. -/
theorem exists_loginEvent {res : HttpResponse} {e : AuthEvent}
    (hlogin : IsAuthRoute (beastToApp bReq) (lit "/auth/login"))
    (h : (WiredInput.request env enableCors bReq).authEvent V (.response res) = some e) :
    ∃ username password pair, e = loginEvent env.now.seconds username password pair := by
  rw [WiredInput.authEvent] at h
  dsimp only at h
  -- With another status than 200 a login shows nothing.
  split at h
  · simp only [Option.bind_eq_bind, Option.bind_eq_some_iff] at h
    obtain ⟨⟨username, password⟩, -, pair, -, h⟩ := h
    exact ⟨username, password, pair, (Option.some.inj h).symm⟩
  · rw [if_neg fun h => hlogin.not_other (by decide) h.1,
      if_neg fun h => hlogin.not_other (by decide) h.1] at h
    cases h

/-- What requests show: logins, refreshes and logouts. -/
theorem authEvent_cases {i : WiredInput} {o : WiredOutput} {e : AuthEvent}
    (h : i.authEvent V o = some e) :
    (∃ time username password pair, e = loginEvent time username password pair) ∨
      (∃ time old pair, e = refreshEvent time old pair) ∨ ∃ time old, e = logoutEvent time old := by
  rw [WiredInput.authEvent.eq_def] at h
  split at h
  · dsimp only at h
    split_ifs at h
    · simp only [Option.bind_eq_bind, Option.bind_eq_some_iff] at h
      obtain ⟨⟨username, password⟩, -, pair, -, h⟩ := h
      exact .inl ⟨_, _, _, _, (Option.some.inj h).symm⟩
    · simp only [Option.bind_eq_bind, Option.bind_eq_some_iff] at h
      obtain ⟨old, -, pair, -, h⟩ := h
      exact .inr (.inl ⟨_, _, _, (Option.some.inj h).symm⟩)
    · exact .inr (.inr ⟨_, _, (Option.some.inj h).symm⟩)
  · cases h

/-- A step adds the call of the service that it makes. -/
theorem Wired.calls_append (e : WiredInput × WiredOutput) :
    Wired.calls V salt config (tr ++ [e]) =
      Wired.calls V salt config tr ++ (e.1.authEvent V e.2).toList := by
  rw [Wired.calls, Wired.calls, List.filterMap_append, List.cons_append]
  cases h : e.1.authEvent V e.2 <;> simp [h]

end Events

/-! ## Tokens in answers -/

section Answers

variable {V : Vendor} {pair : TokenPair}

private theorem expiresIn_of_number (n : UInt32) :
    UInt32.ofInt (Int64.ofInt (n.toNat : ℤ)).toInt = n := by
  have hn := n.toNat_lt
  rw [Int64.toInt_ofInt_of_le (by omega) (by omega), UInt32.ofInt,
    Int.emod_eq_of_lt (by omega) (by omega), Int.toNat_natCast, UInt32.ofNat_toNat]

/-- A client reads the pair that the server has written. -/
theorem ofJson_toJson : TokenPair.ofJson pair.toJson = some pair := by
  -- The members are found by evaluation; the number goes through 64 bits.
  show some (TokenPair.mk pair.accessToken pair.refreshToken
    (UInt32.ofInt (Int64.ofInt (pair.expiresInSeconds.toNat : ℤ)).toInt)) = some pair
  rw [expiresIn_of_number]

private theorem ofJson_toRenewedJson (h : pair.refreshToken = []) :
    TokenPair.ofJson pair.toRenewedJson = some pair := by
  -- The member that is missing is read as the empty string, as the service returned it.
  show some (TokenPair.mk pair.accessToken []
    (UInt32.ofInt (Int64.ofInt (pair.expiresInSeconds.toNat : ℤ)).toInt)) = some pair
  rw [expiresIn_of_number, ← h]

private theorem canonical_number (n : UInt32) : Json.Canonical (.number n.toNat) := by
  have hn := n.toNat_lt
  exact .number (by omega) (by omega)

private theorem canonical_toJson (pair : TokenPair) : pair.toJson.Canonical := by
  refine Json.canonical_mkObject fun f hf => ?_
  simp only [List.mem_cons, List.not_mem_nil, or_false] at hf
  rcases hf with rfl | rfl | rfl | rfl
  · exact .string _
  · exact .string _
  · exact canonical_number _
  · exact .string _

private theorem canonical_toRenewedJson (pair : TokenPair) : pair.toRenewedJson.Canonical := by
  refine Json.canonical_mkObject fun f hf => ?_
  simp only [List.mem_cons, List.not_mem_nil, or_false] at hf
  rcases hf with rfl | rfl | rfl
  · exact .string _
  · exact canonical_number _
  · exact .string _

/-- A text that the library printed is read back. -/
theorem readText_of_dump {α : Type} {read : Json → Option α} (hjson : V.ParseUndoesDump) {j : Json}
    {text : StdString} (hj : j.Canonical) (ht : V.dump j = .ok text) :
    V.readText read text = read j := by
  rw [Vendor.readText, hjson j text hj ht]
  rfl

end Answers

/-! ## Handlers -/

section Handlers

variable {V : Vendor} {env : Env} {req : HttpRequest} {res answer : HttpResponse} {s : AppState}

private theorem status_of_error {status : UInt16} {code message : String}
    (h : ((App.error res status code message).run s).1 = .ok answer) : answer.status = status := by
  cases h
  rfl

/-- The answer in JSON is what the library printed. -/
theorem dump_of_json {status : UInt16} {j : Json}
    (h : ((App.json V res status j).run s).1 = .ok answer) : V.dump j = .ok answer.body := by
  obtain ⟨text, htext, h⟩ := Stateful.exists_of_ofExcept_bind h
  cases h
  exact liftJson_eq_ok_iff.mp htext

/-- A login is answered with 200 only after a login of the service, with its tokens. -/
theorem exists_login_of_ok (h : ((AuthController.postLogin V env req res).run s).1 = .ok answer)
    (h200 : answer.status = 200) :
    ∃ username password pair,
      V.readText readCredentials req.body = some (username, password) ∧
      s.authService.login V env.now.seconds username password = .ok (.ok pair) ∧
      V.dump pair.toJson = .ok answer.body := by
  unfold AuthController.postLogin at h
  split at h
  · exact absurd ((status_of_error h).symm.trans h200) (by decide)
  next body hparse =>
  -- A field of another type throws, so both were read.
  obtain ⟨username, husername, h⟩ := Stateful.exists_of_ofExcept_bind h
  obtain ⟨password, hpassword, h⟩ := Stateful.exists_of_ofExcept_bind h
  split at h
  · exact absurd ((status_of_error h).symm.trans h200) (by decide)
  obtain ⟨r, hlogin, h⟩ := Stateful.exists_of_read_bind h
  split at h
  · exact absurd ((status_of_error h).symm.trans h200) (by decide)
  next pair =>
  -- What is left is the answer with the tokens.
  refine ⟨username, password, pair, ?_, hlogin, dump_of_json h⟩
  rw [liftJson_eq_ok_iff] at husername hpassword
  rw [Vendor.readText, hparse]
  show readCredentials body = _
  rw [readCredentials, husername, hpassword]
  rfl

/-- The same for a refresh. -/
theorem exists_refresh_of_ok (h : ((AuthController.postRefresh V env req res).run s).1 = .ok answer)
    (h200 : answer.status = 200) :
    ∃ token pair, V.readText readRefreshToken req.body = some token ∧
      s.authService.refreshToken V env.now.seconds token = .ok (.ok pair) ∧
      V.dump pair.toRenewedJson = .ok answer.body := by
  unfold AuthController.postRefresh at h
  split at h
  · exact absurd ((status_of_error h).symm.trans h200) (by decide)
  next body hparse =>
  obtain ⟨token, htoken, h⟩ := Stateful.exists_of_ofExcept_bind h
  split at h
  · exact absurd ((status_of_error h).symm.trans h200) (by decide)
  obtain ⟨r, hrefresh, h⟩ := Stateful.exists_of_read_bind h
  split at h
  · exact absurd ((status_of_error h).symm.trans h200) (by decide)
  next pair =>
  refine ⟨token, pair, ?_, hrefresh, dump_of_json h⟩
  rw [liftJson_eq_ok_iff] at htoken
  rw [Vendor.readText, hparse]
  show readRefreshToken body = _
  rw [readRefreshToken, htoken]
  rfl

/-- The same accounts, sessions and settings. -/
def SameService (s s' : AppState) : Prop := s'.authService = s.authService

/-- No handler touches the service but that of the logout. -/
theorem weakFrame_sameService (V : Vendor) : WeakFrame V SameService where
  refl _ := rfl
  trans _ _ _ h h' := h'.trans h
  list _ _ := rfl
  register _ _ _ := rfl
  sendCommand _ _ _ _ := rfl
  query _ _ := rfl

private theorem sameService_handler {route : Route AppState}
    (hroute : route ∈ (registerHttpRoutes V env).routes)
    (hother : ¬ (route.method = .post ∧ route.path = lit "/auth/logout")) :
    (route.handler req res).Respects SameService := by
  have F := weakFrame_sameService V
  rw [routes_registerHttpRoutes] at hroute
  simp only [List.mem_cons, List.not_mem_nil, or_false] at hroute
  -- One case for each route, in the order of registration.
  rcases hroute with rfl | rfl | rfl | rfl | rfl | rfl | rfl | rfl | rfl | rfl | rfl | rfl | rfl
  · exact F.json _ _ _
  · exact F.postLogin req res
  · exact F.postRefresh req res
  · exact absurd ⟨rfl, rfl⟩ hother
  · exact F.getDevices req res
  · exact F.postDevices req res
  · exact fun s => F.deleteDevices req res fun _ => rfl
  · exact F.postCommands req res
  · exact F.getSensors req res
  · exact F.getRules req res
  · exact F.postRules req res fun _ _ _ _ _ _ => rfl
  · exact fun s => F.deleteRules req res fun _ => rfl
  · exact F.getMetrics req res

end Handlers

/-! ## Requests -/

section Requests

open AuthenticationService
open HttpSession (beastToApp responseOf)

/-- The service is in the state that the calls lead to, with the one that the input and its output
show. -/
def Follows (V : Vendor) (config : SecurityConfig) (calls : AuthTrace) (i : WiredInput)
    (o : WiredOutput) (service : AuthenticationService) : Prop :=
  Run V (NoForgery V config) config (calls ++ (i.authEvent V o).toList) service

variable {V : Vendor} {config : SecurityConfig} {calls : AuthTrace} {env : Env}
  {enableCors : Bool} {bReq : RawRequest} {s : AppState} {req : HttpRequest}

/-- A step without a call leaves the service as it is. -/
theorem Follows.of_none {i : WiredInput} {o : WiredOutput}
    {service service' : AuthenticationService}
    (hrun : Run V (NoForgery V config) config calls service) (hnone : i.authEvent V o = none)
    (hkept : service' = service) : Follows V config calls i o service' := by
  rw [Follows, hnone, hkept, Option.toList_none, List.append_nil]
  exact hrun

private theorem Follows.of_some {i : WiredInput} {o : WiredOutput} {service : AuthenticationService}
    {e : AuthEvent} (hevent : i.authEvent V o = some e)
    (hrun : Run V (NoForgery V config) config (calls ++ [e]) service) :
    Follows V config calls i o service := by
  rw [Follows, hevent]
  exact hrun

/-- An answer with 200 comes from a handler that returned. -/
theorem exists_answer_of_ok {x : Except CxxException HttpResponse}
    (h200 : (responseOf enableCors x).status = 200) : ∃ answer, x = .ok answer ∧
      answer.status = 200 ∧ (responseOf enableCors x).body = answer.body := by
  cases x with
  | error e => cases h200
  | ok answer =>
    rw [HttpSession.status_responseOf_ok] at h200
    exact ⟨answer, rfl, h200, HttpSession.body_responseOf_ok answer⟩

/-- The handler of the login. -/
theorem follows_login (hjson : V.ParseUndoesDump)
    (hrun : Run V (NoForgery V config) config calls s.authService)
    (hlogin : IsAuthRoute (beastToApp bReq) (lit "/auth/login"))
    (hbody : req.body = (beastToApp bReq).body) :
    let x := (AuthController.postLogin V env req {}).run s
    Follows V config calls (.request env enableCors bReq) (.response (responseOf enableCors x.1))
      s.authService := by
  intro x
  by_cases h200 : (responseOf enableCors x.1).status = 200
  · obtain ⟨answer, hanswer, hstatus, hsent⟩ := exists_answer_of_ok h200
    obtain ⟨username, password, pair, hread, hok, hdump⟩ := exists_login_of_ok hanswer hstatus
    have hpair : V.readText TokenPair.ofJson (responseOf enableCors x.1).body = some pair := by
      rw [hsent, readText_of_dump hjson (canonical_toJson pair) hdump, ofJson_toJson]
    refine .of_some ?_ (run_login hrun trivial hok)
    rw [WiredInput.authEvent]
    dsimp only
    rw [if_pos ⟨hlogin, h200⟩, ← hbody, hread, hpair]
    rfl
  · -- A login that fails changes nothing, like one that succeeds, and hands out nothing.
    exact .of_none hrun (authEvent_eq_none (fun h => h200 h.2)
      (fun h => hlogin.not_other (by decide) h.1) fun h => hlogin.not_other (by decide) h.1) rfl

/-- The handler of the refresh. -/
theorem follows_refresh (hjson : V.ParseUndoesDump)
    (hrun : Run V (NoForgery V config) config calls s.authService)
    (hrefresh : IsAuthRoute (beastToApp bReq) (lit "/auth/refresh"))
    (hbody : req.body = (beastToApp bReq).body)
    (hpresents : Presents V config calls (.request env enableCors bReq)) :
    let x := (AuthController.postRefresh V env req {}).run s
    Follows V config calls (.request env enableCors bReq) (.response (responseOf enableCors x.1))
      s.authService := by
  intro x
  by_cases h200 : (responseOf enableCors x.1).status = 200
  · obtain ⟨answer, hanswer, hstatus, hsent⟩ := exists_answer_of_ok h200
    obtain ⟨token, pair, hread, hok, hdump⟩ := exists_refresh_of_ok hanswer hstatus
    obtain ⟨-, -, -, -, hnone, -⟩ := refreshToken_eq_ok_iff.mp hok
    -- The handler reads the body that came in, so the guard is about the token it presents.
    rw [hbody] at hread
    have hpair : V.readText TokenPair.ofJson (responseOf enableCors x.1).body = some pair := by
      rw [hsent, readText_of_dump hjson (canonical_toRenewedJson pair) hdump,
        ofJson_toRenewedJson hnone]
    refine .of_some ?_ (run_refreshToken hrun (hpresents.2 token hrefresh hread) hok)
    rw [WiredInput.authEvent]
    dsimp only
    rw [if_neg fun h => hrefresh.not_other (by decide) h.1, if_pos ⟨hrefresh, h200⟩, hread, hpair]
    rfl
  · exact .of_none hrun (authEvent_eq_none (fun h => hrefresh.not_other (by decide) h.1)
      (fun h => h200 h.2) fun h => hrefresh.not_other (by decide) h.1) rfl

/-- The handler of the logout, behind the middlewares. -/
theorem follows_logout (hrun : Run V (NoForgery V config) config calls s.authService)
    (hlogout : IsAuthRoute (beastToApp bReq) (lit "/auth/logout")) {token : StdString}
    (hheader : (beastToApp bReq).getHeader authorization = bearer ++ token)
    (hsame : req.getHeader authorization = (beastToApp bReq).getHeader authorization) :
    let x := (AuthController.postLogout req {}).run s
    Follows V config calls (.request env enableCors bReq) (.response (responseOf enableCors x.1))
      x.2.authService := by
  intro x
  have hbearer : (req.getHeader authorization).startsWith bearer = true := by
    rw [hsame, hheader]
    exact startsWith_iff.mpr ⟨token, rfl⟩
  -- Handler and history cut the same token out of the header.
  have hstate : x.2.authService =
      s.authService.logout (((beastToApp bReq).getHeader authorization).substrFrom 7) := by
    rw [← hsame]
    show (ite ((req.getHeader authorization).startsWith bearer = true) _ s :
      AppState).authService = _
    rw [if_pos hbearer]
  have hstatus : (responseOf enableCors x.1).status = 204 := HttpSession.status_responseOf_ok _
  rw [hstate]
  refine .of_some ?_ (run_logout env.now.seconds _ hrun trivial)
  rw [WiredInput.authEvent]
  dsimp only
  rw [if_neg fun h => hlogout.not_other (by decide) h.1,
    if_neg fun h => hlogout.not_other (by decide) h.1, if_pos ⟨hlogout, hstatus⟩]

/-- After a request the service is in the state that the call it shows leads to. -/
theorem follows_request (hjson : V.ParseUndoesDump)
    (hrun : Run V (NoForgery V config) config calls s.authService)
    (hpresents : Presents V config calls (.request env enableCors bReq)) :
    let r := HttpSession.onRead (registerHttpRoutes V env) enableCors bReq s
    Follows V config calls (.request env enableCors bReq) (.response r.1) r.2.authService := by
  intro r
  rcases handled_or_unhandled V env enableCors bReq s with ⟨route, req, h⟩ | h
  · have hr : r = (responseOf enableCors ((route.handler req {}).run s).1,
        ((route.handler req {}).run s).2) := h.onRead
    rw [hr]
    -- Behind every other route the service stays as it is.
    have hkept (hother : ¬ IsAuthRoute (beastToApp bReq) (lit "/auth/logout")) :
        ((route.handler req {}).run s).2.authService = s.authService :=
      sameService_handler h.mem (fun hroute => hother
        ⟨h.method.symm.trans hroute.1, h.path.symm.trans hroute.2⟩) s
    by_cases hlogin : IsAuthRoute (beastToApp bReq) (lit "/auth/login")
    · obtain rfl := h.route_eq ⟨.post, lit "/auth/login", AuthController.postLogin V env⟩
        (by simp [routes_registerHttpRoutes]) hlogin.1 hlogin.2
      rw [hkept (hlogin.not_other (by decide))]
      exact follows_login hjson hrun hlogin h.same.body
    by_cases hrefresh : IsAuthRoute (beastToApp bReq) (lit "/auth/refresh")
    · obtain rfl := h.route_eq ⟨.post, lit "/auth/refresh", AuthController.postRefresh V env⟩
        (by simp [routes_registerHttpRoutes]) hrefresh.1 hrefresh.2
      rw [hkept (hrefresh.not_other (by decide))]
      exact follows_refresh hjson hrun hrefresh h.same.body hpresents
    by_cases hlogout : IsAuthRoute (beastToApp bReq) (lit "/auth/logout")
    · obtain rfl := h.route_eq ⟨.post, lit "/auth/logout", AuthController.postLogout⟩
        (by simp [routes_registerHttpRoutes]) hlogout.1 hlogout.2
      -- The path is not public, so the handler sees a token.
      obtain ⟨claims, hsends, -⟩ := exists_sendsToken_of_handled h.resolved
        (show isPublicPath (lit "/auth/logout") = false by decide)
      obtain ⟨token, hheader, -⟩ := carriesToken_beastToApp_iff.mpr hsends
      exact follows_logout hrun hlogout hheader h.same.authorization
    · exact .of_none hrun (authEvent_eq_none (fun h => hlogin h.1) (fun h => hrefresh h.1)
        fun h => hlogout h.1) (hkept hlogout)
  · -- What the middlewares answer has none of the two codes.
    have hother {path : StdString} {status : UInt16}
        (hcode : status ∉ [401, 403, 404, 405, 500]) :
        ¬ (IsAuthRoute (beastToApp bReq) path ∧ r.1.status = status) := by
      rintro ⟨⟨hmethod, -⟩, rfl⟩
      rcases h.status with hoptions | hmem
      · rw [hmethod] at hoptions
        cases hoptions
      · exact hcode hmem
    exact .of_none hrun (authEvent_eq_none (hother (by decide)) (hother (by decide))
      (hother (by decide))) (congrArg AppState.authService h.state)

end Requests

end IotDashboard
