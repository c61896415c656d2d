import IotDashboard.Api.AuthCalls
import IotDashboard.Api.Identity
import IotDashboard.Security.Authenticity

/-!
# Sessions over HTTP

A run of the wired application is a run of the authentication service on the calls that the requests
and their answers show. So it follows from what was answered before whether a request is let in, and
as whom: nothing else that happens, no message, poll or event of the connection, bears on it.

## Main definitions

* `OpenSession`: a token was handed out, has not expired and was not logged out;
* `Wired.Honest`: no step presents a forged token.

## Main results

* `Wired.auth_of_run`: the service is in the state that the calls lead to;
* `Wired.gate_of_run`: a request is let in exactly with an open session, as the administrator.
-/

namespace IotDashboard

open StdString

/-- The token was handed out, has not expired and was not logged out. -/
structure OpenSession (config : SecurityConfig) (calls : AuthTrace) (now : Int64)
    (token : StdString) : Prop where
  issued : ∃ kind time, IssuedAs calls kind token time ∧ now ≤ time + config.lifetime kind
  notLoggedOut : ∀ time, logoutEvent time token ∉ calls

section Sessions

open AuthenticationService

variable {V : Vendor} {config : SecurityConfig} {salt : Option Salt} {tr : WiredTrace}
  {calls : AuthTrace} {s : AuthenticationService} {now : Int64} {token : StdString}

/-- Without a session that is open, the service refuses the token, and throws no exception. -/
theorem exists_refused_of_not_openSession (hjson : V.ParseUndoesDump)
    (hrun : Run V (NoForgery V config) config calls s) (hmac : IdealMac V config calls token)
    (hclosed : ¬ OpenSession config calls now token) :
    ∃ e, s.validateToken V now token = .ok (.error e) := by
  rw [validateToken]
  -- The blacklist is asked first, before anything is read.
  by_cases hrevoked : token ∈ s.revokedTokens
  · rw [if_pos hrevoked]
    exact ⟨_, rfl⟩
  rw [if_neg hrevoked, jwtHandler, config_of_run hrun]
  rcases JwtHandler.signedAs_or_verify_eq (V := V) (h := ⟨config.jwtSecret⟩) now token with
    ⟨head, body, hsigned⟩ | hrefused
  · -- The signature is genuine, so the token was handed out, and it has expired.
    obtain ⟨kind, issued, time, hissued, hsame⟩ := hmac head body hsigned
    obtain rfl := JwtHandler.eq_of_signedAs hsigned hsame
    obtain ⟨claims, hgen⟩ := exists_generate_of_issuedAs hrun hissued
    rw [JwtHandler.verify_of_generate hjson hgen]
    split
    · exact ⟨_, rfl⟩
    next hexpiry =>
    refine absurd ⟨⟨kind, time, hissued, Int64.not_lt.mp hexpiry⟩, fun at' hlogout => ?_⟩ hclosed
    exact hrevoked ((mem_revokedTokens_iff hrun).mpr ⟨at', hlogout⟩)
  · exact ⟨_, hrefused⟩

/-- The one user of the application. -/
theorem claims_of_firstRegistered {user : UserRecord}
    (h : FirstRegistered V config (Wired.calls V salt config tr) user) :
    user.claims = adminClaims := by
  obtain ⟨pre, post, time, salt', password, htr, -⟩ := h
  have hmem : ((time, .registerUser salt' user.userId user.username password user.role),
      .registered (.ok ())) ∈ Wired.calls V salt config tr := by
    rw [htr]
    exact List.mem_append_right _ List.mem_cons_self
  -- The registration is the one at the start.
  rcases List.mem_cons.mp hmem with hstart | hlater
  · have hcall := congrArg (fun e : AuthEvent => e.1.2) hstart
    simp only [adminRegistration, AuthCall.registerUser.injEq] at hcall
    rw [UserRecord.claims, adminClaims, hcall.2.1, hcall.2.2.1, hcall.2.2.2.2]
  · -- Nobody is registered over HTTP.
    obtain ⟨⟨i, o⟩, -, hevent⟩ := List.mem_filterMap.mp hlater
    rcases authEvent_cases hevent with ⟨_, _, _, _, h⟩ | ⟨_, _, _, h⟩ | ⟨_, _, h⟩ <;> cases h

/-- With a session that is open, the service accepts the token for the administrator. -/
theorem validateToken_of_openSession (hjson : V.ParseUndoesDump)
    (hrun : Run V (NoForgery V config) config (Wired.calls V salt config tr) s)
    (hopen : OpenSession config (Wired.calls V salt config tr) now token) :
    s.validateToken V now token = .ok (.ok adminClaims) := by
  obtain ⟨kind, time, hissued, hexpiry⟩ := hopen.issued
  obtain ⟨user, ⟨root, -, pre, post, pair, htr, hregistered, -⟩, hgen⟩ :=
    provenance_of_issuedAs hjson hrun hissued
  have huser : user.claims = adminClaims := by
    -- The user was registered before the login; the rest of the history does not change that.
    have hwhole := hregistered.append
      (loginEvent root.time root.username root.password pair :: post)
    rw [← htr] at hwhole
    exact claims_of_firstRegistered hwhole
  rw [← huser]
  refine validateToken_of_generate hjson hrun hgen (fun hrevoked => ?_) hexpiry
  obtain ⟨at', hlogout⟩ := (mem_revokedTokens_iff hrun).mp hrevoked
  exact hopen.notLoggedOut at' hlogout

end Sessions

/-! ## Answers of the middlewares -/

section Refusals

variable {V : Vendor} {env : Env} {enableCors : Bool} {bReq : RawRequest} {s : AppState}

/-- A request without a token, or with one that the service refuses, is answered with 401 and
changes nothing. -/
theorem onRead_of_refused (hpublic : isPublicPath (HttpSession.beastToApp bReq).path = false)
    (hoptions : (HttpSession.beastToApp bReq).method ≠ .options)
    (hrefused : ∀ token, (HttpSession.beastToApp bReq).getHeader authorization = bearer ++ token →
      ∃ e, s.authService.validateToken V env.now.seconds token = .ok (.error e)) :
    let answer := HttpSession.onRead (registerHttpRoutes V env) enableCors bReq s
    answer.1.status = 401 ∧ answer.2 = s := by
  intro answer
  have hcarries (claims : UserClaims) : ¬ CarriesToken V env.now.seconds s.authService
      (HttpSession.beastToApp bReq) claims := by
    rintro ⟨token, hheader, hvalid⟩
    obtain ⟨e, he⟩ := hrefused token hheader
    rw [he] at hvalid
    cases hvalid
  rcases run_resolve_of_not_carries {} hpublic hcarries with
    ⟨x, ⟨token, hheader, hthrown⟩, -⟩ | ⟨message, hrun⟩
  · -- A token that is refused was read without an exception.
    obtain ⟨e, he⟩ := hrefused token hheader
    rw [he] at hthrown
    cases hthrown
  have hanswer : answer = _ := HttpSession.onRead_of_dispatched (registerHttpRoutes V env) s
    (by simp [hoptions])
  rw [HttpRouter.dispatch, Stateful.run_bind_of_ok hrun] at hanswer
  rw [hanswer]
  exact ⟨HttpSession.status_responseOf_ok _, rfl⟩

/-- No route answers pre-flight requests. -/
theorem method_ne_options {route : Route AppState}
    (hroute : route ∈ (registerHttpRoutes V env).routes) : route.method ≠ .options := by
  rw [routes_registerHttpRoutes] at hroute
  simp only [List.mem_cons, List.not_mem_nil, or_false] at hroute
  rcases hroute with rfl | rfl | rfl | rfl | rfl | rfl | rfl | rfl | rfl | rfl | rfl | rfl | rfl <;>
    simp

end Refusals

namespace Wired

variable {V : Vendor} {config : SecurityConfig} {w : Wired}

/-- Only requests reach the service. -/
theorem insensitive_authService :
    Insensitive fun w w' => w'.app.authService = w.app.authService where
  trans _ _ _ h h' := h'.trans h
  told h := by rw [h.app]
  devices _ _ := rfl
  monitor _ _ := rfl
  client _ _ := rfl

/-! ## Runs -/

/-- A step leads the service where the call that it shows does. -/
theorem follows_step (hjson : V.ParseUndoesDump) {calls : AuthTrace} {i : WiredInput}
    (hrun : AuthenticationService.Run V (NoForgery V config) config calls w.app.authService)
    (hpresents : Presents V config calls i) :
    Follows V config calls i (step V w i).1 (step V w i).2.app.authService := by
  cases i with
  | request env enableCors bReq => exact follows_request hjson hrun hpresents
  | _ => exact .of_none hrun rfl (insensitive_authService.step w nofun)

section Runs

variable {salt : Option Salt} {w₀ : Wired} {tr : WiredTrace}

/-- No step presents a forged token. -/
def Honest (V : Vendor) (salt : Option Salt) (config : SecurityConfig) (tr : WiredTrace)
    (_ : Wired) (i : WiredInput) : Prop :=
  Presents V config (calls V salt config tr) i

/-- From the start of the application on, the service is in the state that the calls lead to which
the requests and their answers show: a run of the wired application is one of the service. -/
theorem auth_of_run (hjson : V.ParseUndoesDump)
    (hstart : w₀.app.authService = Application.initializeSecurity V salt config)
    (hrun : Mealy.Run (step V) (Honest V salt config) w₀ tr w) :
    AuthenticationService.Run V (NoForgery V config) config (calls V salt config tr)
      w.app.authService := by
  refine hrun.historyInvariant (P := fun tr w => AuthenticationService.Run V (NoForgery V config)
    config (calls V salt config tr) w.app.authService) ?_ fun tr w i ih hpresents => ?_
  · -- Before the first request there was the registration.
    rw [hstart]
    exact Mealy.Run.nil.snoc (0, adminRegistration salt) trivial
  · rw [calls_append]
    exact follows_step hjson ih hpresents

/-- Whatever has happened since the start, a request for a route that is not public gets to its
handler exactly if its token was handed out in an answer, has not expired and was not logged out in
a request that was answered with 204. The handler then sees the administrator in the headers;
otherwise the answer is 401 and nothing changes. -/
theorem gate_of_run (hjson : V.ParseUndoesDump)
    (hstart : w₀.app.authService = Application.initializeSecurity V salt config)
    (hrun : Mealy.Run (step V) (Honest V salt config) w₀ tr w) {env : Env} {enableCors : Bool}
    {bReq : RawRequest} (hpresents : Honest V salt config tr w (.request env enableCors bReq))
    {route : Route AppState} (hroute : route ∈ (registerHttpRoutes V env).routes)
    (hmethod : (HttpSession.beastToApp bReq).method = route.method)
    (hpath : (HttpSession.beastToApp bReq).path = route.path)
    (hpublic : isPublicPath route.path = false) :
    let admitted := ∃ token,
      (HttpSession.beastToApp bReq).getHeader authorization = bearer ++ token ∧
        OpenSession config (calls V salt config tr) env.now.seconds token
    let answer := HttpSession.onRead (registerHttpRoutes V env) enableCors bReq w.app
    (admitted → ∃ req, Handled V env enableCors bReq w.app route req ∧ req.Names adminClaims) ∧
      (¬ admitted → answer.1.status = 401 ∧ answer.2 = w.app) := by
  have hservice := auth_of_run hjson hstart hrun
  have hoptions := method_ne_options hroute
  have hpublic' : isPublicPath (HttpSession.beastToApp bReq).path = false := hpath ▸ hpublic
  refine ⟨fun ⟨token, hheader, hopen⟩ => ?_, fun hclosed => ?_⟩
  · -- The service accepts the token for the administrator, who passes every middleware.
    have hcarries : CarriesToken V env.now.seconds w.app.authService
        (HttpSession.beastToApp bReq) adminClaims :=
      ⟨token, hheader, validateToken_of_openSession hjson hservice hopen⟩
    obtain ⟨req, h⟩ : ∃ req, Handled V env enableCors bReq w.app route req :=
      handled_of_sendsToken hroute hmethod hpath hoptions hpublic
        (carriesToken_beastToApp_iff.mp hcarries) (by decide)
    exact ⟨req, h, names_of_handled hpublic' hcarries h.resolved⟩
  · -- Whatever token there is, the service refuses it without throwing.
    refine onRead_of_refused hpublic' (hmethod ▸ hoptions) fun token hheader => ?_
    exact exists_refused_of_not_openSession hjson hservice (hpresents.1 token hheader)
      fun hopen => hclosed ⟨token, hheader, hopen⟩

/-! ### The administrator logs in -/

open AuthenticationService (sampleConfig)

/-- The salt of the registration. -/
def sampleSalt : Option Salt := some ⟨List.replicate 16 1, rfl⟩

/-- The application right after its start. -/
def started : Wired where
  app.authService := Application.initializeSecurity Vendor.reference sampleSalt sampleConfig

/-- The login with the password from the source. -/
def adminLogin : RawRequest where
  method := .post
  target := lit "/auth/login"
  body := lit "\x7b\"username\":\"admin\",\"password\":\"admin123\"\x7d"

/-- The login succeeds. -/
theorem exists_run_adminLogin :
    ∃ w tr username password pair,
      Mealy.Run (step Vendor.reference) (Honest Vendor.reference sampleSalt sampleConfig) started
        tr w ∧
      calls Vendor.reference sampleSalt sampleConfig tr =
        calls Vendor.reference sampleSalt sampleConfig [] ++
          [loginEvent 0 username password pair] := by
  let i : WiredInput := .request { now := 0 } false adminLogin
  have hpresents : Honest Vendor.reference sampleSalt sampleConfig [] started i := by
    refine ⟨fun token hheader => ?_, fun token hrefresh => ?_⟩
    · cases hheader
    · exact absurd hrefresh.2 (by decide)
  have hlogin : IsAuthRoute (HttpSession.beastToApp adminLogin) (lit "/auth/login") := by decide
  -- The password is hashed at the start and again at the login.
  obtain ⟨e, hevent⟩ : ∃ e, i.authEvent Vendor.reference (step Vendor.reference started i).1 =
      some e := Option.isSome_iff_exists.mp (by decide +kernel)
  obtain ⟨username, password, pair, rfl⟩ := exists_loginEvent hlogin hevent
  refine ⟨_, _, username, password, pair, Mealy.Run.nil.snoc i hpresents, ?_⟩
  rw [calls_append, hevent]
  rfl

/-- The service has issued the token of the administrator. -/
theorem auth_of_run_adminLogin :
    ∃ tr token s, AuthenticationService.Run Vendor.reference
      (NoForgery Vendor.reference sampleConfig) sampleConfig tr s ∧
      IssuedAs tr .access token 0 := by
  obtain ⟨w, tr, username, password, pair, hrun, hcalls⟩ := exists_run_adminLogin
  refine ⟨_, pair.accessToken, _, auth_of_run Vendor.parseUndoesDump_reference rfl hrun, ?_⟩
  rw [hcalls]
  exact .access (List.mem_append_right _ (List.mem_singleton_self _))

/-- With the token the administrator is let in. -/
theorem gate_of_run_adminLogin :
    ∃ (s : AppState) (token : StdString) (req : HttpRequest),
      Handled Vendor.reference { now := 0 } false
        { method := .get
          target := lit "/devices"
          fields := [(lit "Authorization", bearer ++ token)] } s
        ⟨.get, lit "/devices", DeviceController.getDevices Vendor.reference⟩ req ∧
      req.Names adminClaims := by
  obtain ⟨w, tr, username, password, pair, hrun, hcalls⟩ := exists_run_adminLogin
  have hissued :
      IssuedAs (calls Vendor.reference sampleSalt sampleConfig tr) .access pair.accessToken 0 := by
    rw [hcalls]
    exact .access (List.mem_append_right _ (List.mem_singleton_self _))
  let bReq : RawRequest :=
    { method := .get
      target := lit "/devices"
      fields := [(lit "Authorization", bearer ++ pair.accessToken)] }
  have hheader : (HttpSession.beastToApp bReq).getHeader authorization =
      bearer ++ pair.accessToken :=
    HttpSession.getHeader_beastToApp bReq (by decide)
  have hpresents : Honest Vendor.reference sampleSalt sampleConfig tr w
      (.request { now := 0 } false bReq) := by
    refine ⟨fun token htoken => ?_, fun token hrefresh => ?_⟩
    · obtain rfl := List.append_cancel_left (hheader.symm.trans htoken)
      exact AuthenticationService.idealMac_of_issuedAs hissued
    · exact absurd hrefresh.2 (show lit "/devices" ≠ _ by decide)
  have hopen : OpenSession sampleConfig (calls Vendor.reference sampleSalt sampleConfig tr) 0
      pair.accessToken := by
    refine ⟨⟨.access, 0, hissued, by decide⟩, fun time hlogout => ?_⟩
    -- There are two calls, the registration and the login.
    rw [hcalls] at hlogout
    rcases List.mem_append.mp hlogout with h | h <;> cases List.mem_singleton.mp h
  have hroute : (⟨.get, lit "/devices", DeviceController.getDevices Vendor.reference⟩ :
      Route AppState) ∈ (registerHttpRoutes Vendor.reference { now := 0 }).routes := by
    simp [routes_registerHttpRoutes]
  obtain ⟨req, hhandled, hnames⟩ := (gate_of_run Vendor.parseUndoesDump_reference rfl hrun
    hpresents hroute rfl rfl (by decide)).1 ⟨_, hheader, hopen⟩
  exact ⟨w.app, pair.accessToken, req, hhandled, hnames⟩

end Runs

end Wired

end IotDashboard
