import IotDashboard.Api.Application
import IotDashboard.Security.Sessions

/-!
# Who gets through the assembled router

Two questions about the router of the application. Does a request that may use a route get to its
handler? For viewers it does not: the middlewares of all controllers run for every request, and
among them are some that ask for a permission to write. Does a request get to a handler only if it
may? It does: whatever the target and the header fields of the raw request, the path that the
middlewares exempt is the path that the routes match.

## Main results

* `handler_reached_iff`: an entitled request is handled exactly if the role is not a viewer's;
* `viewer_read_refused`: a viewer cannot read devices;
* `authentication_gate`: what a handled request must have carried, and that any other request
  leaves the application unchanged.
-/

namespace IotDashboard

open StdString

variable {V : Vendor} {env : Env} {s : AppState} {req : HttpRequest} {res : HttpResponse}
  {claims : UserClaims} {route : Route AppState} {access : Access}

/-! ## Requests with a token -/

/-- A request that carries a token. -/
def bearerRequest (method : HttpMethod) (path token : StdString) : HttpRequest where
  method := method
  target := path
  path := path
  headers := AList.insert authorization (bearer ++ token) ∅

/-- The request carries its token. -/
theorem getHeader_bearerRequest (method : HttpMethod) (path token : StdString) :
    (bearerRequest method path token).getHeader authorization = bearer ++ token := by
  have hlower : toLower authorization = authorization := by decide
  rw [HttpRequest.getHeader, hlower, bearerRequest, AList.lookup_insert]
  rfl

/-- A service in which a user of the role is logged in, with the user's access token. -/
theorem exists_session (role : Role) :
    ∃ service tr token, AuthenticationService.Run Vendor.reference Mealy.anyInput
      AuthenticationService.sampleConfig tr service ∧
      service.validateToken Vendor.reference 0 token =
        .ok (.ok (AuthenticationService.sampleClaims role)) := by
  obtain ⟨service, tr, hrun, hrevoked, -, hlogin⟩ :=
    AuthenticationService.exists_sampleService Mealy.anyInput role trivial
  obtain ⟨pair, hok, haccess, -⟩ := hlogin 0
  refine ⟨service, _, pair.accessToken, AuthenticationService.run_login hrun trivial hok, ?_⟩
  exact AuthenticationService.validateToken_of_generate Vendor.parseUndoesDump_reference hrun
    haccess (by simp [hrevoked]) (by decide)

/-! ## Entitled requests -/

/-- A declared route is not public. -/
theorem not_isPublicPath_of_declared {method : HttpMethod} {path : StdString}
    (h : (method, path, access) ∈ declaredAccess) : isPublicPath path = false := by
  have hall : ∀ a ∈ declaredAccess, isPublicPath a.2.1 = false := by decide
  exact hall _ h

/-- A request with an accepted token is handled by the declared route of its method and path exactly
if the role is not that of a viewer, whatever access the route was declared with. -/
theorem handler_reached_iff (hroute : route ∈ (registerHttpRoutes V env).routes)
    (hdeclared : (route.method, route.path, access) ∈ declaredAccess)
    (hmethod : req.method = route.method) (hpath : req.path = route.path)
    (hcarries : CarriesToken V env.now.seconds s.authService req claims) :
    (∃ req' res', ((registerHttpRoutes V env).resolve req res).run s =
      (.ok (.handled route req' res'), s)) ↔ claims.role ≠ .viewer := by
  have hpublic : isPublicPath req.path = false := by
    rw [hpath]
    exact not_isPublicPath_of_declared hdeclared
  obtain ⟨req', res', hsame, hrun⟩ := run_resolve_of_carries env s res hpublic hcarries
  rw [hrun]
  by_cases hviewer : claims.role = .viewer
  · -- A viewer is refused before any route is looked at.
    simp [hviewer]
  · have hfind : HttpRouter.findRoute req' res' false (registerHttpRoutes V env).routes =
        .handled route req' res' :=
      HttpRouter.findRoute_of_mem nodup_routes hroute (hmethod.symm.trans hsame.method.symm)
        (hpath.symm.trans hsame.path.symm)
    rw [if_pos hviewer, hfind]
    exact iff_of_true ⟨req', res', rfl⟩ hviewer

/-- An operator's list of the devices. -/
theorem handler_reached_operator :
    ∃ (s : AppState) (token : StdString) (route : Route AppState) (req' : HttpRequest)
      (res' : HttpResponse), route.path = lit "/devices" ∧
      ((registerHttpRoutes Vendor.reference { now := 0 }).resolve
        (bearerRequest .get (lit "/devices") token) {}).run s =
          (.ok (.handled route req' res'), s) := by
  obtain ⟨service, tr, token, -, hvalid⟩ := exists_session .operator
  let route : Route AppState :=
    ⟨.get, lit "/devices", DeviceController.getDevices Vendor.reference⟩
  have hroute : route ∈ (registerHttpRoutes Vendor.reference { now := 0 }).routes := by
    rw [routes_registerHttpRoutes]
    simp [route]
  obtain ⟨req', res', hrun⟩ := (@handler_reached_iff Vendor.reference { now := 0 }
    { authService := service } _ {} _ route ⟨lit "devices", .read⟩ hroute (by decide) rfl rfl
    ⟨token, getHeader_bearerRequest .get (lit "/devices") token, hvalid⟩).mpr (by decide)
  exact ⟨_, token, route, req', res', rfl, hrun⟩

/-- A viewer may read devices, but a viewer's list of the devices is refused. -/
theorem viewer_read_refused :
    ¬ ∀ (config : SecurityConfig) (tr : AuthTrace) (s : AppState) (env : Env) (req : HttpRequest)
      (claims : UserClaims) (route : Route AppState) (access : Access),
      AuthenticationService.Run Vendor.reference Mealy.anyInput config tr s.authService →
      route ∈ (registerHttpRoutes Vendor.reference env).routes →
      (route.method, route.path, access) ∈ declaredAccess →
      req.method = route.method → req.path = route.path →
      CarriesToken Vendor.reference env.now.seconds s.authService req claims →
      access.granted claims.role = true →
      ∃ req' res', ((registerHttpRoutes Vendor.reference env).resolve req {}).run s =
        (.ok (.handled route req' res'), s) := by
  intro hcomplete
  obtain ⟨service, tr, token, hrun, hvalid⟩ := exists_session .viewer
  let route : Route AppState :=
    ⟨.get, lit "/devices", DeviceController.getDevices Vendor.reference⟩
  have hroute : route ∈ (registerHttpRoutes Vendor.reference { now := 0 }).routes := by
    rw [routes_registerHttpRoutes]
    simp [route]
  have hcarries : CarriesToken Vendor.reference (0 : Timestamp).seconds service
      (bearerRequest .get (lit "/devices") token) (AuthenticationService.sampleClaims .viewer) :=
    ⟨token, getHeader_bearerRequest .get (lit "/devices") token, hvalid⟩
  obtain ⟨req', res', hhandled⟩ := hcomplete _ tr { authService := service } { now := 0 } _ _ route
    ⟨lit "devices", .read⟩ hrun hroute (by decide) rfl rfl hcarries (by decide)
  -- The middlewares for writing devices and for the rules refuse a viewer.
  obtain ⟨req₁, res₁, -, hrefused⟩ := run_resolve_of_carries { now := 0 }
    { authService := service } {} (show isPublicPath (lit "/devices") = false by decide) hcarries
  rw [hrefused, if_neg (by decide)] at hhandled
  cases hhandled

/-! ## The gate -/

/-- The last `authorization` field of the raw request holds a token that the service accepts with
the claims. -/
def SendsToken (V : Vendor) (now : Int64) (service : AuthenticationService) (bReq : RawRequest)
    (claims : UserClaims) : Prop :=
  ∃ token, HttpSession.lastField bReq authorization = some (bearer ++ token) ∧
    service.validateToken V now token = .ok (.ok claims)

/-- A request sends one token at most. -/
theorem SendsToken.unique {now : Int64} {service : AuthenticationService} {bReq : RawRequest}
    {claims' : UserClaims} (h : SendsToken V now service bReq claims)
    (h' : SendsToken V now service bReq claims') : claims = claims' := by
  obtain ⟨token, hfield, hvalid⟩ := h
  obtain ⟨token', hfield', hvalid'⟩ := h'
  obtain rfl : token = token' :=
    List.append_cancel_left (Option.some.inj (hfield.symm.trans hfield'))
  exact Except.ok.inj (Except.ok.inj (hvalid.symm.trans hvalid'))

/-- The copied headers carry the token of the last field. -/
theorem carriesToken_beastToApp_iff {now : Int64} {service : AuthenticationService}
    {bReq : RawRequest} :
    CarriesToken V now service (HttpSession.beastToApp bReq) claims ↔
      SendsToken V now service bReq claims := by
  have hlower : toLower authorization = authorization := by decide
  rw [CarriesToken, SendsToken, HttpSession.getHeader_beastToApp bReq hlower]
  refine exists_congr fun token => and_congr_left' ?_
  cases HttpSession.lastField bReq authorization with
  | none => simp [bearer, lit]
  | some value => simp

/-- A request that is handled by a route that is not public carries the token of somebody who is no
viewer, and the handler sees it with nothing but headers added. -/
theorem exists_sendsToken_of_handled {bReq : RawRequest} {req' : HttpRequest}
    {res' : HttpResponse} {s' : AppState}
    (h : ((registerHttpRoutes V env).resolve (HttpSession.beastToApp bReq) {}).run s =
      (.ok (.handled route req' res'), s')) (hroute : isPublicPath route.path = false) :
    ∃ claims, SendsToken V env.now.seconds s.authService bReq claims ∧ claims.role ≠ .viewer ∧
      SameRequest (HttpSession.beastToApp bReq) req' := by
  by_cases hpublic : isPublicPath (HttpSession.beastToApp bReq).path = true
  · -- The path that was exempted is the path that the route matched.
    rw [run_resolve_of_public hpublic] at h
    obtain ⟨-, hpath, -⟩ :=
      HttpRouter.of_findRoute_eq_handled (Except.ok.inj (Prod.mk.inj h).1)
    rw [← hpath, hroute] at hpublic
    cases hpublic
  rw [Bool.not_eq_true] at hpublic
  -- Behind the middlewares there are only requests with an accepted token of no viewer.
  by_cases hcarries : ∃ claims,
      CarriesToken V env.now.seconds s.authService (HttpSession.beastToApp bReq) claims
  · obtain ⟨claims, hcarries⟩ := hcarries
    obtain ⟨req₁, res₁, hsame, hrun⟩ := run_resolve_of_carries env s {} hpublic hcarries
    rw [hrun] at h
    have hresolution := Except.ok.inj (Prod.mk.inj h).1
    by_cases hviewer : claims.role = .viewer
    · rw [if_neg (not_not_intro hviewer)] at hresolution
      cases hresolution
    · rw [if_pos hviewer] at hresolution
      obtain ⟨-, -, -, rfl, -⟩ := HttpRouter.of_findRoute_eq_handled hresolution
      exact ⟨claims, carriesToken_beastToApp_iff.mp hcarries, hviewer, hsame⟩
  · rcases run_resolve_of_not_carries {} hpublic (not_exists.mp hcarries) with
      ⟨x, -, hrun⟩ | ⟨message, hrun⟩
    · rw [hrun] at h
      cases h
    · rw [hrun] at h
      cases h

/-- What runs a handler of another path than the three public ones carries an accepted token whose
role has the access declared for the route; and a request to such a path without an accepted token
runs no handler and changes nothing. -/
theorem authentication_gate (V : Vendor) (env : Env) (s : AppState) (bReq : RawRequest)
    (enableCors : Bool) :
    (∀ route req' res' s', ((registerHttpRoutes V env).resolve (HttpSession.beastToApp bReq) {}).run
        s = (.ok (.handled route req' res'), s') →
      route.path ∉ [lit "/health", lit "/auth/login", lit "/auth/refresh"] →
      ∃ claims, SendsToken V env.now.seconds s.authService bReq claims ∧
        ∀ access, (route.method, route.path, access) ∈ declaredAccess →
          access.granted claims.role = true) ∧
    ((HttpSession.beastToApp bReq).path ∉
        [lit "/health", lit "/auth/login", lit "/auth/refresh"] →
      (∀ claims, ¬ SendsToken V env.now.seconds s.authService bReq claims) →
      (∀ route req' res' s', ((registerHttpRoutes V env).resolve (HttpSession.beastToApp bReq)
        {}).run s ≠ (.ok (.handled route req' res'), s')) ∧
      (HttpSession.onRead (registerHttpRoutes V env) enableCors bReq s).2 = s) := by
  simp only [← isPublicPath_eq_false_iff]
  constructor
  · intro route req' res' s' hhandled hroute
    obtain ⟨claims, hsends, hrole, -⟩ := exists_sendsToken_of_handled hhandled hroute
    -- Whoever passed the whole list has the access that the route was declared with.
    refine ⟨claims, hsends, fun access hdeclared => ?_⟩
    exact List.all_eq_true.mp ((granted_all_iff claims.role).mpr hrole) _ hdeclared
  · intro hpublic hsends
    have hcarries : ∀ claims, ¬ CarriesToken V env.now.seconds s.authService
        (HttpSession.beastToApp bReq) claims := fun claims hcarries =>
      hsends claims (carriesToken_beastToApp_iff.mp hcarries)
    rcases run_resolve_of_not_carries {} hpublic hcarries with ⟨x, -, hrun⟩ | ⟨message, hrun⟩
    · refine ⟨fun route req' res' s' => by simp [hrun], ?_⟩
      apply HttpSession.onRead_eq_of_unchanged
      rw [HttpRouter.dispatch, Stateful.run_bind_of_error hrun]
    · refine ⟨fun route req' res' s' => by simp [hrun], ?_⟩
      apply HttpSession.onRead_eq_of_unchanged
      rw [HttpRouter.dispatch, Stateful.run_bind_of_ok hrun]
      rfl

/-- An operator's list of the devices went through the gate with the operator's token. -/
theorem authentication_gate_operator :
    ∃ (s : AppState) (bReq : RawRequest) (claims : UserClaims),
      SendsToken Vendor.reference (0 : Timestamp).seconds s.authService bReq claims ∧
        (⟨lit "devices", .read⟩ : Access).granted claims.role = true := by
  obtain ⟨service, tr, token, -, hvalid⟩ := exists_session .operator
  let s : AppState := { authService := service }
  -- The last of two fields counts, whatever the case of its name.
  let bReq : RawRequest :=
    { method := .get
      target := lit "/devices?online=true"
      fields := [(lit "Authorization", lit "Basic"), (lit "AUTHORIZATION", bearer ++ token)] }
  let route : Route AppState :=
    ⟨.get, lit "/devices", DeviceController.getDevices Vendor.reference⟩
  have hroute : route ∈ (registerHttpRoutes Vendor.reference { now := 0 }).routes := by
    rw [routes_registerHttpRoutes]
    simp [route]
  have hsends : SendsToken Vendor.reference (0 : Timestamp).seconds service bReq
      (AuthenticationService.sampleClaims .operator) := ⟨token, rfl, hvalid⟩
  obtain ⟨req', res', hsame, hrun⟩ := run_resolve_of_carries { now := 0 } s {}
    (show isPublicPath (lit "/devices") = false by decide)
    (carriesToken_beastToApp_iff.mpr hsends)
  rw [if_pos (by decide), HttpRouter.findRoute_of_mem nodup_routes hroute hsame.method.symm
    hsame.path.symm] at hrun
  obtain ⟨claims, hclaims, hgranted⟩ :=
    (authentication_gate Vendor.reference { now := 0 } s bReq true).1 route req' res' s hrun
      (by decide)
  exact ⟨s, bReq, claims, hclaims, hgranted _ (by decide)⟩

end IotDashboard
