import IotDashboard.Api.Frames
import IotDashboard.Api.Gate

/-!
# Logging out through the router

The revocation behind `POST /auth/logout` is for good: no later request and no later call of the
service takes a token off the blacklist. But the request has to reach the handler, and for a viewer
it does not, because the middlewares of the other controllers run first.

## Main definitions

* `Application.step`: what can happen to the running application;
* `RejectedFrom`: a token is neither accepted nor refreshed from a time on, whatever happens.

## Main results

* `logout_revokes_iff`: logging out works exactly for those who are no viewers;
* `viewer_logout_ineffective`: a viewer's token stays good.
-/

namespace IotDashboard

open StdString

/-- What can happen to the application: a request, a call of the authentication service, or
anything that leaves the authentication service alone. -/
inductive AppInput where
  | request (env : Env) (enableCors : Bool) (bReq : RawRequest)
  | auth (now : Int64) (call : AuthCall)
  | elsewhere (backend : Backend) (rules : RuleRepository) (httpRequests mqttMessages : UInt64)

/-- What comes back. -/
inductive AppOutput where
  | response (res : HttpResponse)
  | reply (r : AuthReply)
  | none

/-- One step of the application. -/
def Application.step (V : Vendor) (s : AppState) : AppInput → AppOutput × AppState
  | .request env enableCors bReq =>
    let r := HttpSession.onRead (registerHttpRoutes V env) enableCors bReq s
    (.response r.1, r.2)
  | .auth now call =>
    let r := AuthenticationService.step V s.authService (now, call)
    (.reply r.1, { s with authService := r.2 })
  | .elsewhere backend rules httpRequests mqttMessages =>
    (.none, { s with backend, rules, httpRequests, mqttMessages })

/-- From the time on, whatever happens to the application, the token is neither accepted nor
refreshed. -/
def RejectedFrom (V : Vendor) (now : Int64) (s : AppState) (token : StdString) : Prop :=
  ∀ tr s', Mealy.Run (Application.step V) Mealy.anyInput s tr s' → ∀ later, now ≤ later →
    (∀ claims, s'.authService.validateToken V later token ≠ .ok (.ok claims)) ∧
      ∀ pair, s'.authService.refreshToken V later token ≠ .ok (.ok pair)

/-! ## Requests and the blacklist -/

/-- Whatever is on the blacklist stays there. -/
def KeepsRevoked (s s' : AppState) : Prop :=
  ∀ token ∈ s.authService.revokedTokens, token ∈ s'.authService.revokedTokens

/-- No handler touches the authentication service but that of the logout. -/
theorem frame_keepsRevoked (V : Vendor) : Frame V KeepsRevoked where
  refl _ _ h := h
  trans _ _ _ h h' token htoken := h' token (h token htoken)
  list _ _ _ h := h
  register _ _ _ _ h := h
  sendCommand _ _ _ _ _ h := h
  query _ _ _ h := h
  addRule _ _ _ h := h

/-- The logout adds to the blacklist. -/
theorem keepsRevoked_logout (s : AppState) (token : StdString) :
    KeepsRevoked s { s with authService := s.authService.logout token } := fun _ htoken =>
  AuthenticationService.mem_revokedTokens_logout.mpr (.inr htoken)

/-! ## What a step keeps -/

section Steps

variable {V : Vendor} {env : Env} {s : AppState} {token : StdString}

/-- A request takes no token off the blacklist. -/
theorem revoked_of_request (enableCors : Bool) (bReq : RawRequest)
    (htoken : token ∈ s.authService.revokedTokens) :
    token ∈ (HttpSession.onRead (registerHttpRoutes V env) enableCors bReq
      s).2.authService.revokedTokens := by
  refine (frame_keepsRevoked V).weak.rel_onRead enableCors (fun route req' res' hhandled => ?_)
    token htoken
  obtain ⟨-, hroute, -⟩ := HttpRouter.of_run_resolve_eq_handled hhandled
  exact (frame_keepsRevoked V).rel_handler hroute (keepsRevoked_logout s)
    (fun _ _ _ _ h => h) (fun _ _ _ _ h => h)

/-- Nothing that happens to the application takes a token off the blacklist. -/
theorem revoked_of_step (i : AppInput) (htoken : token ∈ s.authService.revokedTokens) :
    token ∈ (Application.step V s i).2.authService.revokedTokens := by
  -- Requests go through the router, calls of the service and everything else do not.
  cases i with
  | request env enableCors bReq => exact revoked_of_request enableCors bReq htoken
  | auth now call =>
    cases call with
    | registerUser salt userId username password role =>
      show token ∈
        (s.authService.registerUser V salt userId username password role).2.revokedTokens
      rcases AuthenticationService.registerUser_cases (V := V) (s := s.authService) with
        ⟨e, h⟩ | ⟨hash, -, -, h⟩ <;> rw [h] <;> exact htoken
    | logout other => exact AuthenticationService.mem_revokedTokens_logout.mpr (.inr htoken)
    | _ => exact htoken
  | elsewhere => exact htoken

/-- A blacklisted token is rejected for good. -/
theorem rejectedFrom_of_revoked (htoken : token ∈ s.authService.revokedTokens) (now : Int64) :
    RejectedFrom V now s token := by
  intro tr s' hrun later _
  -- The token stays on the blacklist to the end of the run, and there both operations look it up.
  have hrevoked : token ∈ s'.authService.revokedTokens :=
    hrun.invariant (P := fun s => token ∈ s.authService.revokedTokens) htoken
      fun _ _ i h _ => revoked_of_step i h
  refine ⟨fun claims hok => ?_, fun pair hok => ?_⟩
  · exact (AuthenticationService.validateToken_eq_ok_iff.mp hok).1 hrevoked
  · obtain ⟨_, -, hlive, -⟩ := AuthenticationService.refreshToken_eq_ok_iff.mp hok
    exact hlive hrevoked

end Steps

/-! ## Logging out -/

section Logout

variable {V : Vendor} {env : Env} {req : HttpRequest} {s : AppState} {token : StdString}
  {claims : UserClaims}

/-- After `POST /auth/logout` with an accepted token, the token is rejected for good exactly if its
bearer is no viewer. -/
theorem logout_revokes_iff (hmethod : req.method = .post) (hpath : req.path = lit "/auth/logout")
    (hheader : req.getHeader authorization = bearer ++ token)
    (hvalid : s.authService.validateToken V env.now.seconds token = .ok (.ok claims)) :
    RejectedFrom V env.now.seconds (((registerHttpRoutes V env).dispatch req {}).run s).2 token ↔
      claims.role ≠ .viewer := by
  have hpublic : isPublicPath req.path = false := by
    rw [hpath]
    decide
  obtain ⟨req', res', hsame, hrun⟩ :=
    run_resolve_of_carries env s {} hpublic ⟨token, hheader, hvalid⟩
  by_cases hviewer : claims.role = .viewer
  · -- The request is refused, so the token is as good as before.
    rw [if_neg (not_not_intro hviewer)] at hrun
    have hstate : ((registerHttpRoutes V env).dispatch req {}).run s = (.ok res', s) := by
      rw [HttpRouter.dispatch, Stateful.run_bind_of_ok hrun]
      rfl
    rw [hstate]
    refine iff_of_false (fun hrejected => ?_) (not_not_intro hviewer)
    exact (hrejected [] s .nil env.now.seconds (Int64.le_refl _)).1 claims hvalid
  · have hroute : ⟨.post, lit "/auth/logout", AuthController.postLogout⟩ ∈
        (registerHttpRoutes V env).routes := by
      rw [routes_registerHttpRoutes]
      simp
    rw [if_pos hviewer, HttpRouter.findRoute_of_mem nodup_routes hroute
      (hmethod.symm.trans hsame.method.symm) (hpath.symm.trans hsame.path.symm)] at hrun
    rw [HttpRouter.dispatch, Stateful.run_bind_of_ok hrun]
    refine iff_of_true (rejectedFrom_of_revoked ?_ _) hviewer
    -- The handler reads the same header as the middlewares did.
    have hauth : req'.getHeader authorization = bearer ++ token := hsame.authorization.trans hheader
    have hbearer : (bearer ++ token).startsWith bearer = true := startsWith_iff.mpr ⟨token, rfl⟩
    show token ∈ (ite ((req'.getHeader authorization).startsWith bearer = true) _ s :
      AppState).authService.revokedTokens
    rw [hauth, if_pos hbearer]
    exact AuthenticationService.mem_revokedTokens_logout.mpr (.inl rfl)

/-- An operator logs out. -/
theorem logout_revokes_operator :
    ∃ (s : AppState) (token : StdString),
      s.authService.validateToken Vendor.reference 0 token =
        .ok (.ok (AuthenticationService.sampleClaims .operator)) ∧
      RejectedFrom Vendor.reference 0 (((registerHttpRoutes Vendor.reference { now := 0 }).dispatch
        (bearerRequest .post (lit "/auth/logout") token) {}).run s).2 token := by
  obtain ⟨service, tr, token, -, hvalid⟩ := exists_session .operator
  refine ⟨{ authService := service }, token, hvalid, ?_⟩
  exact (@logout_revokes_iff Vendor.reference { now := 0 } _ _ token _ rfl rfl
    (getHeader_bearerRequest .post (lit "/auth/logout") token) hvalid).mpr (by decide)

/-- A viewer logs out, and the token stays good. -/
theorem viewer_logout_ineffective :
    ¬ ∀ (config : SecurityConfig) (tr : AuthTrace) (s : AppState) (env : Env) (req : HttpRequest)
      (token : StdString) (claims : UserClaims),
      AuthenticationService.Run Vendor.reference Mealy.anyInput config tr s.authService →
      req.method = .post → req.path = lit "/auth/logout" →
      req.getHeader authorization = bearer ++ token →
      s.authService.validateToken Vendor.reference env.now.seconds token = .ok (.ok claims) →
      RejectedFrom Vendor.reference env.now.seconds
        (((registerHttpRoutes Vendor.reference env).dispatch req {}).run s).2 token := by
  intro hrevokes
  obtain ⟨service, tr, token, hrun, hvalid⟩ := exists_session .viewer
  have hheader := getHeader_bearerRequest .post (lit "/auth/logout") token
  have hrejected := hrevokes _ tr { authService := service } { now := 0 } _ token _ hrun rfl rfl
    hheader hvalid
  obtain ⟨req', res', -, hrefused⟩ := run_resolve_of_carries { now := 0 }
    { authService := service } {} (show isPublicPath (lit "/auth/logout") = false by decide)
    ⟨token, hheader, hvalid⟩
  rw [if_neg (by decide)] at hrefused
  rw [HttpRouter.dispatch, Stateful.run_bind_of_ok hrefused] at hrejected
  exact (hrejected [] _ .nil 0 (by decide)).1 _ hvalid

end Logout

end IotDashboard
