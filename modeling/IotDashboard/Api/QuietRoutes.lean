import IotDashboard.Api.Frames
import IotDashboard.Api.Gate

/-!
# Requests that leave the devices alone

Of the routes of the router, three reach further than the answer, the sessions and the rules: the
registration of a device, its removal, and the commands. Every other request leaves the tables and
the connection to the broker as they are, whoever sends it and whatever it holds; and so does a
request that the middlewares do not let through, whose status tells.

## Main definitions

* `Undisturbed`: the same tables and the same connection to the broker;
* `ReachesDevices`: the three routes.

## Main results

* `undisturbed_onRead`: requests to other routes leave the devices alone;
* `handled_or_unhandled`: what becomes of a request, with the status of one that no handler sees.
-/

namespace IotDashboard

open StdString

/-! ## Calls that fail -/

/-- No call on a connection makes later ones fail. -/
theorem Database.reliable_handle (e : SqlCall) :
    (Database.handle e).Respects fun d d' => d.Reliable → d'.Reliable := by
  intro d hreliable
  cases e with
  | prepare => exact reliable_tick hreliable 1
  | step w => exact reliable_step hreliable w
  | selectDevice id => exact reliable_tick hreliable 1
  | selectDevices => exact reliable_tick hreliable _
  | selectReadings clauses params => exact reliable_tick hreliable _
  | execute command =>
    show (d.execute command).2.Reliable
    cases command with
    | begin => rw [Database.execute]; split <;> exact reliable_tick hreliable 1
    | commit => rw [Database.execute]; split <;> exact reliable_tick hreliable 1
    | rollback => rw [Database.execute]; split <;> exact hreliable
  | changes => exact hreliable

/-- Code on a reliable database leaves it reliable. -/
theorem Database.reliable_run {α : Type} (p : Sql α) :
    (p.run Database.handle).Respects fun d d' => d.Reliable → d'.Reliable := by
  apply Program.respects_run_of_forall
  · exact fun _ => id
  · exact fun _ _ _ h h' => h' ∘ h
  · exact Database.reliable_handle

/-- So does code on the ports. -/
theorem Backend.reliable_run {α : Type} (p : Ports α) :
    (p.run Backend.handle).Respects fun b b' => b.database.Reliable → b'.database.Reliable := by
  apply Program.respects_run_of_forall
  · exact fun _ => id
  · exact fun _ _ _ h h' => h' ∘ h
  intro e b
  have hsql {β : Type} (p : Sql β) : b.database.Reliable →
      ((p.run Database.handle).run b.database).2.Reliable := Database.reliable_run p b.database
  -- Either a repository operation, or a call of the client.
  cases e with
  | getById deviceId => exact hsql (SqliteDeviceRepository.getById deviceId)
  | getAll => exact hsql SqliteDeviceRepository.getAll
  | add device => exact hsql (SqliteDeviceRepository.add device)
  | update device => exact hsql (SqliteDeviceRepository.update device)
  | remove deviceId => exact hsql (SqliteDeviceRepository.remove deviceId)
  | isConnected => exact id
  | subscribe topic qos => exact id
  | unsubscribe topic => exact id
  | publish topic payload qos retain => exact id

/-! ## Undisturbed devices -/

/-- The tables and the connection to the broker are the same. -/
structure Undisturbed (s s' : AppState) : Prop where
  tables : s'.backend.database.tables = s.backend.database.tables
  mqtt : s'.backend.mqtt = s.backend.mqtt
  reliable : s.backend.database.Reliable → s'.backend.database.Reliable

namespace Undisturbed

@[simp]
theorem refl (s : AppState) : Undisturbed s s := ⟨rfl, rfl, id⟩

/-- What is undisturbed twice is undisturbed. -/
theorem trans {s s' s'' : AppState} (h : Undisturbed s s') (h' : Undisturbed s' s'') :
    Undisturbed s s'' :=
  ⟨h'.tables.trans h.tables, h'.mqtt.trans h.mqtt, h'.reliable ∘ h.reliable⟩

variable {α β : Type} {m : App α} {f : α → App β} {s : AppState}

/-- Code in undisturbed parts disturbs nothing. -/
theorem bind (hm : m.Respects Undisturbed) (hf : ∀ a, (f a).Respects Undisturbed) :
    (m >>= f).Respects Undisturbed :=
  Stateful.respects_bind (fun _ _ _ h h' => h.trans h') hm hf

/-- An exception disturbs nothing. -/
theorem ofExcept (r : Except CxxException α) :
    (Stateful.ofExcept r : App α).Respects Undisturbed :=
  Stateful.respects_ofExcept refl r

/-- Reading the state disturbs nothing. -/
theorem read (g : AppState → Except CxxException α) :
    (Stateful.read g : App α).Respects Undisturbed :=
  Stateful.respects_read refl g

/-- Making an answer disturbs nothing. -/
theorem json (V : Vendor) (res : HttpResponse) (status : UInt16) (j : Json) :
    (App.json V res status j).Respects Undisturbed :=
  bind (ofExcept _) fun _ => refl

/-- Refusing disturbs nothing. -/
theorem error (res : HttpResponse) (status : UInt16) (code message : String) :
    (App.error res status code message).Respects Undisturbed :=
  refl

/-- A query changes no table. -/
theorem query (opts : SensorQueryOptions) :
    (App.sensors (SqliteSensorRepository.query opts)).Respects Undisturbed := by
  have hsame : Evolution (· = · : Tables → Tables → Prop) :=
    ⟨fun _ => rfl, fun _ _ _ => Eq.trans⟩
  exact fun s => ⟨(Database.respects_run hsame (by simp)
    (SqliteSensorRepository.within_query opts) s.backend.database).symm, rfl,
    Database.reliable_run (SqliteSensorRepository.query opts) s.backend.database⟩

/-- A list changes no table, and does not call the client. -/
theorem list (filter : DeviceFilter) :
    (App.devices (DeviceManager.list filter)).Respects Undisturbed := by
  intro s
  have hsame : Evolution (· = · : Tables → Tables → Prop) :=
    ⟨fun _ => rfl, fun _ _ _ => Eq.trans⟩
  have hmqtt : (((DeviceManager.list filter).run Backend.handle).run s.backend).2.mqtt =
      s.backend.mqtt := by
    have hgetAll : (Ports.getAll.run Backend.handle).run s.backend = _ :=
      Backend.run_perform .getAll
    rw [DeviceManager.list, Program.run_bind, Stateful.run_bind, hgetAll]
    simp only [Backend.handle, Backend.run_onDatabase]
    rcases (SqliteDeviceRepository.getAll.run Database.handle).run s.backend.database with
      ⟨_ | _ | _, _⟩ <;> rfl
  exact ⟨(Backend.respects_run hsame (DeviceManager.within_list filter) s.backend).symm, hmqtt,
    Backend.reliable_run (DeviceManager.list filter) s.backend⟩

end Undisturbed

/-! ## Routes -/

/-- The routes whose handlers register a device, remove one or send it a command. -/
def ReachesDevices (method : HttpMethod) (path : StdString) : Prop :=
  (path = lit "/devices" ∧ (method = .post ∨ method = .delete)) ∨
    (path = lit "/commands" ∧ method = .post)

section Handlers

variable {V : Vendor} {env : Env} (req : HttpRequest) (res : HttpResponse)

open Undisturbed (refl bind)

private theorem undisturbed_postLogin :
    (AuthController.postLogin V env req res).Respects Undisturbed := by
  unfold AuthController.postLogin
  split
  · exact Undisturbed.error _ _ _ _
  refine bind (Undisturbed.ofExcept _) fun username =>
    bind (Undisturbed.ofExcept _) fun password => ?_
  split
  · exact Undisturbed.error _ _ _ _
  refine bind (Undisturbed.read _) fun r => ?_
  split
  · exact Undisturbed.error _ _ _ _
  · exact Undisturbed.json _ _ _ _

private theorem undisturbed_postRefresh :
    (AuthController.postRefresh V env req res).Respects Undisturbed := by
  unfold AuthController.postRefresh
  split
  · exact Undisturbed.error _ _ _ _
  refine bind (Undisturbed.ofExcept _) fun refreshToken => ?_
  split
  · exact Undisturbed.error _ _ _ _
  refine bind (Undisturbed.read _) fun r => ?_
  split
  · exact Undisturbed.error _ _ _ _
  · exact Undisturbed.json _ _ _ _

private theorem undisturbed_postLogout :
    (AuthController.postLogout req res).Respects Undisturbed := by
  intro s
  show Undisturbed s (ite _ _ s)
  split
  · exact ⟨rfl, rfl, id⟩
  · exact refl s

/-- Listing the devices disturbs nothing. -/
theorem undisturbed_getDevices : (DeviceController.getDevices V req res).Respects Undisturbed := by
  refine bind (Undisturbed.list _) fun r => ?_
  split
  · exact Undisturbed.error _ _ _ _
  · exact Undisturbed.json _ _ _ _

private theorem undisturbed_getSensors :
    (SensorController.getSensors V req res).Respects Undisturbed := by
  rw [SensorController.getSensors]
  split
  · exact Undisturbed.error _ _ _ _
  refine bind (Undisturbed.query _) fun r => ?_
  split
  · exact Undisturbed.error _ _ _ _
  · exact Undisturbed.json _ _ _ _

private theorem undisturbed_getRules :
    (AutomationController.getRules V req res).Respects Undisturbed := by
  refine bind (Undisturbed.read _) fun r => ?_
  split
  · exact Undisturbed.error _ _ _ _
  · exact Undisturbed.json _ _ _ _

/-- The rule engine has nothing to do with the devices. -/
theorem undisturbed_rules {α : Type} (f : RuleRepository → α × RuleRepository) :
    (App.rules f).Respects Undisturbed := fun _ => ⟨rfl, rfl, id⟩

private theorem undisturbed_postRules :
    (AutomationController.postRules V req res).Respects Undisturbed := by
  unfold AutomationController.postRules
  split
  · exact Undisturbed.error _ _ _ _
  refine bind (Undisturbed.ofExcept _) fun id => bind (Undisturbed.ofExcept _) fun name =>
    bind (Undisturbed.ofExcept _) fun enabled => ?_
  split
  · exact Undisturbed.error _ _ _ _
  split
  · exact refl
  refine bind (undisturbed_rules _) fun r => ?_
  split
  · exact Undisturbed.error _ _ _ _
  refine bind (Undisturbed.read _) fun created => ?_
  split
  · exact Undisturbed.json _ _ _ _
  · exact Undisturbed.json _ _ _ _

private theorem undisturbed_deleteRules :
    (AutomationController.deleteRules req res).Respects Undisturbed := by
  rw [AutomationController.deleteRules]
  split
  · exact Undisturbed.error _ _ _ _
  refine bind (undisturbed_rules _) fun r => ?_
  split
  · exact Undisturbed.error _ _ _ _
  · exact refl

private theorem undisturbed_getMetrics :
    (MetricsController.getMetrics V env req res).Respects Undisturbed :=
  bind (Undisturbed.read _) fun _ => Undisturbed.json _ _ _ _

/-- The handlers of the other routes leave the devices alone. -/
theorem undisturbed_handler {route : Route AppState}
    (hroute : route ∈ (registerHttpRoutes V env).routes)
    (hother : ¬ ReachesDevices route.method route.path) :
    (route.handler req res).Respects Undisturbed := by
  rw [routes_registerHttpRoutes] at hroute
  simp only [List.mem_cons, List.not_mem_nil, or_false] at hroute
  -- One case for each route, in the order of registration.
  rcases hroute with rfl | rfl | rfl | rfl | rfl | rfl | rfl | rfl | rfl | rfl | rfl | rfl | rfl
  · exact Undisturbed.json _ _ _ _
  · exact undisturbed_postLogin req res
  · exact undisturbed_postRefresh req res
  · exact undisturbed_postLogout req res
  · exact undisturbed_getDevices req res
  · exact absurd (.inl ⟨rfl, .inl rfl⟩) hother
  · exact absurd (.inl ⟨rfl, .inr rfl⟩) hother
  · exact absurd (.inr ⟨rfl, rfl⟩) hother
  · exact undisturbed_getSensors req res
  · exact undisturbed_getRules req res
  · exact undisturbed_postRules req res
  · exact undisturbed_deleteRules req res
  · exact undisturbed_getMetrics req res

end Handlers

/-! ## Requests -/

/-- What the middlewares do with a request, on a state that they do not change. -/
inductive Passage (req : HttpRequest) (res : HttpResponse) :
    Except CxxException (Bool × HttpRequest × HttpResponse) → Prop
  | thrown (x : CxxException) : isPublicPath req.path = false → Passage req res (.error x)
  | passed {req' : HttpRequest} : SameRequest req req' → Passage req res (.ok (true, req', res))
  | refused {req' : HttpRequest} {status : UInt16} {code message : StdString} :
      isPublicPath req.path = false → status = 401 ∨ status = 403 → code.Plain → message.Plain →
        Passage req res (.ok (false, req', res.error status code message))

section Passages

variable {σ : Type} (V : Vendor) (now : Int64) (authService : σ → AuthenticationService)

private theorem passage_middleware (access : Access) (req : HttpRequest) (res : HttpResponse)
    (s : σ) :
    ∃ r, (access.middleware V now authService req res).run s = (r, s) ∧ Passage req res r := by
  by_cases hpublic : isPublicPath req.path = true
  · exact ⟨_, run_middleware_of_public hpublic, .passed ⟨rfl, rfl, rfl, rfl, rfl⟩⟩
  rw [Bool.not_eq_true] at hpublic
  simp only [Access.middleware, makeAuthMiddleware, hpublic, Bool.false_eq_true, if_false]
  split
  · exact ⟨_, rfl, .refused hpublic (.inl rfl) (by decide) (by decide)⟩
  · -- A token was sent, and the service decides.
    simp only [Stateful.run_bind, Stateful.run_read]
    cases (authService s).validateToken V now ((req.getHeader authorization).substrFrom 7) with
    | error x => exact ⟨_, rfl, .thrown x hpublic⟩
    | ok validated =>
      cases validated with
      | error e => exact ⟨_, rfl, .refused hpublic (.inl rfl) (by decide) (by decide)⟩
      | ok claims =>
        dsimp only
        split
        · exact ⟨_, rfl, .refused hpublic (.inr rfl) (by decide) (by decide)⟩
        · exact ⟨_, rfl, .passed sameRequest_injectClaims⟩

private theorem passage_authChain (accesses : List Access) (req : HttpRequest) (res : HttpResponse)
    (s : σ) : ∃ r, (HttpRouter.runMiddlewares (authChain V now authService accesses) req res).run
      s = (r, s) ∧ Passage req res r := by
  induction accesses generalizing req with
  | nil => exact ⟨_, rfl, .passed ⟨rfl, rfl, rfl, rfl, rfl⟩⟩
  | cons access accesses ih =>
    obtain ⟨r, hrun, hpassage⟩ := passage_middleware V now authService access req res s
    show ∃ r, (HttpRouter.runMiddlewares (access.middleware V now authService ::
      authChain V now authService accesses) req res).run s = _ ∧ _
    rw [HttpRouter.runMiddlewares, Stateful.run_bind, hrun]
    cases hpassage with
    | thrown x hpublic => exact ⟨_, rfl, .thrown x hpublic⟩
    | refused hpublic hstatus hcode hmessage =>
      exact ⟨_, rfl, .refused hpublic hstatus hcode hmessage⟩
    | @passed req' hsame =>
      -- The rest of the chain sees the request with the headers of this middleware.
      obtain ⟨r', hrun', hpassage'⟩ := ih req'
      refine ⟨r', hrun', ?_⟩
      cases hpassage' with
      | thrown x hpublic => exact .thrown x (hsame.path ▸ hpublic)
      | refused hpublic hstatus hcode hmessage =>
        exact .refused (hsame.path ▸ hpublic) hstatus hcode hmessage
      | passed hsame' => exact .passed (hsame.trans hsame')

end Passages

namespace HttpSession

variable {enableCors : Bool} {σ : Type}

/-- What `OnRead` answers when the dispatch has returned or thrown. -/
def responseOf (enableCors : Bool) : Except CxxException HttpResponse → HttpResponse
  | .ok res =>
    if enableCors then res.setHeader (lit "access-control-allow-origin") (lit "*") else res
  | .error _ => ({} : HttpResponse).error 500 (lit "InternalError") (lit "Internal server error")

@[simp]
theorem status_responseOf_ok (res : HttpResponse) :
    (responseOf enableCors (.ok res)).status = res.status := by
  cases enableCors <;> rfl

@[simp]
theorem body_responseOf_ok (res : HttpResponse) :
    (responseOf enableCors (.ok res)).body = res.body := by
  cases enableCors <;> rfl

@[simp]
theorem status_responseOf_error (x : CxxException) :
    (responseOf enableCors (.error x)).status = 500 := rfl

/-- A request that is no pre-flight request is dispatched and answered. -/
theorem onRead_of_dispatched (router : HttpRouter σ) {bReq : RawRequest} (s : σ)
    (h : ¬ (enableCors && (beastToApp bReq).method == .options) = true) :
    onRead router enableCors bReq s =
      (responseOf enableCors ((router.dispatch (beastToApp bReq) {}).run s).1,
        ((router.dispatch (beastToApp bReq) {}).run s).2) := by
  rw [onRead, if_neg h]
  rcases (router.dispatch (beastToApp bReq) {}).run s with ⟨_ | _, s'⟩ <;> rfl

end HttpSession

section Requests

variable {V : Vendor} {env : Env} {enableCors : Bool} {bReq : RawRequest} {s : AppState}

/-- A route of the router runs its handler on the request. -/
structure Handled (V : Vendor) (env : Env) (enableCors : Bool) (bReq : RawRequest) (s : AppState)
    (route : Route AppState) (req : HttpRequest) : Prop where
  mem : route ∈ (registerHttpRoutes V env).routes
  same : SameRequest (HttpSession.beastToApp bReq) req
  method : route.method = (HttpSession.beastToApp bReq).method
  path : route.path = (HttpSession.beastToApp bReq).path
  resolved : ((registerHttpRoutes V env).resolve (HttpSession.beastToApp bReq) {}).run s =
    (.ok (.handled route req {}), s)
  onRead : HttpSession.onRead (registerHttpRoutes V env) enableCors bReq s =
    (HttpSession.responseOf enableCors ((route.handler req {}).run s).1,
      ((route.handler req {}).run s).2)

/-- The route of a handled request is the one of its method and path. -/
theorem Handled.route_eq {route : Route AppState} {req : HttpRequest}
    (h : Handled V env enableCors bReq s route req) (expected : Route AppState)
    (hmem : expected ∈ (registerHttpRoutes V env).routes)
    (hmethod : (HttpSession.beastToApp bReq).method = expected.method)
    (hpath : (HttpSession.beastToApp bReq).path = expected.path) : route = expected := by
  refine List.inj_on_of_nodup_map nodup_routes h.mem hmem (Prod.ext ?_ ?_)
  · exact h.method.trans hmethod
  · exact h.path.trans hpath

/-- The answers to requests that no handler sees. -/
inductive Rejection (V : Vendor) (env : Env) (enableCors : Bool) (req : HttpRequest) :
    HttpResponse → Prop
  | preflight : enableCors = true → req.method = .options →
      Rejection V env enableCors req HttpSession.preflight
  | thrown (x : CxxException) : isPublicPath req.path = false →
      Rejection V env enableCors req (HttpSession.responseOf enableCors (.error x))
  | refused {status : UInt16} {code message : StdString} : isPublicPath req.path = false →
      status = 401 ∨ status = 403 → code.Plain → message.Plain →
        Rejection V env enableCors req
          (HttpSession.responseOf enableCors (.ok (({} : HttpResponse).error status code message)))
  | methodNotAllowed :
      (∃ route ∈ (registerHttpRoutes V env).routes, route.path = req.path) →
      (∀ route ∈ (registerHttpRoutes V env).routes, route.path = req.path →
        route.method ≠ req.method) →
        Rejection V env enableCors req (HttpSession.responseOf enableCors
          (.ok (({} : HttpResponse).error 405 (lit "MethodNotAllowed")
            (lit "Method not allowed for this endpoint"))))
  | notFound : (∀ route ∈ (registerHttpRoutes V env).routes, route.path ≠ req.path) →
      Rejection V env enableCors req (HttpSession.responseOf enableCors
        (.ok (({} : HttpResponse).error 404 (lit "NotFound") (lit "Endpoint not found"))))

/-- The status tells a rejection, unless the request was a pre-flight request. -/
theorem Rejection.status {req : HttpRequest} {res : HttpResponse}
    (h : Rejection V env enableCors req res) :
    req.method = .options ∨ res.status ∈ [401, 403, 404, 405, 500] := by
  cases h with
  | preflight _ hmethod => exact .inl hmethod
  | thrown x => exact .inr (by simp)
  | refused _ hstatus =>
    right
    rw [HttpSession.status_responseOf_ok, HttpResponse.error_status]
    rcases hstatus with h | h <;> simp [h]
  | methodNotAllowed => exact .inr (by simp)
  | notFound => exact .inr (by simp)

/-- No handler runs, and nothing changes. -/
structure Unhandled (V : Vendor) (env : Env) (enableCors : Bool) (bReq : RawRequest)
    (s : AppState) : Prop where
  state : (HttpSession.onRead (registerHttpRoutes V env) enableCors bReq s).2 = s
  answer : Rejection V env enableCors (HttpSession.beastToApp bReq)
    (HttpSession.onRead (registerHttpRoutes V env) enableCors bReq s).1
  unresolved : (HttpSession.beastToApp bReq).method = .options ∨
    ∀ route req res s', ((registerHttpRoutes V env).resolve (HttpSession.beastToApp bReq) {}).run
      s ≠ (.ok (.handled route req res), s')

/-- A request that no handler has answered is a preflight or has one of five statuses. -/
theorem Unhandled.status (h : Unhandled V env enableCors bReq s) :
    (HttpSession.beastToApp bReq).method = .options ∨
      (HttpSession.onRead (registerHttpRoutes V env) enableCors bReq s).1.status ∈
        [401, 403, 404, 405, 500] :=
  h.answer.status

/-- A request is handled by a route of its path and method, or not at all. -/
theorem handled_or_unhandled (V : Vendor) (env : Env) (enableCors : Bool) (bReq : RawRequest)
    (s : AppState) :
    (∃ route req, Handled V env enableCors bReq s route req) ∨
      Unhandled V env enableCors bReq s := by
  by_cases hpreflight : (enableCors && (HttpSession.beastToApp bReq).method == .options) = true
  · -- The answer to a pre-flight request does not ask the router.
    have honRead : HttpSession.onRead (registerHttpRoutes V env) enableCors bReq s =
        (HttpSession.preflight, s) := by
      rw [HttpSession.onRead, if_pos hpreflight]
    rw [Bool.and_eq_true, beq_iff_eq] at hpreflight
    refine .inr ⟨by rw [honRead], ?_, .inl hpreflight.2⟩
    rw [honRead]
    exact .preflight hpreflight.1 hpreflight.2
  have honRead := HttpSession.onRead_of_dispatched (registerHttpRoutes V env) s hpreflight
  obtain ⟨r, hrun, hpassage⟩ := passage_authChain V env.now.seconds AppState.authService
    (declaredAccess.map (·.2.2)) (HttpSession.beastToApp bReq) {} s
  rw [← middlewares_registerHttpRoutes] at hrun
  cases hpassage with
  | thrown x hpublic =>
    have hdispatch : ((registerHttpRoutes V env).dispatch (HttpSession.beastToApp bReq) {}).run s =
        (.error x, s) := by
      rw [HttpRouter.dispatch, HttpRouter.resolve, Stateful.run_bind, Stateful.run_bind, hrun]
    rw [hdispatch] at honRead
    refine .inr ⟨by rw [honRead], honRead ▸ .thrown x hpublic, .inr fun _ _ _ _ h => ?_⟩
    rw [HttpRouter.resolve, Stateful.run_bind, hrun] at h
    cases h
  | refused hpublic hstatus hcode hmessage =>
    rw [HttpRouter.dispatch,
      Stateful.run_bind_of_ok (HttpRouter.run_resolve_of_stop hrun)] at honRead
    refine .inr ⟨by rw [honRead]; rfl, ?_, .inr fun _ _ _ _ h => ?_⟩
    · rw [honRead]
      exact .refused hpublic hstatus hcode hmessage
    · rw [HttpRouter.run_resolve_of_stop hrun] at h
      cases h
  | @passed req' hsame =>
    have hdispatch : ((registerHttpRoutes V env).dispatch (HttpSession.beastToApp bReq) {}).run s =
        (HttpRouter.act (HttpRouter.findRoute req' {} false (registerHttpRoutes V env).routes)).run
          s := by
      rw [HttpRouter.dispatch, Stateful.run_bind_of_ok (HttpRouter.run_resolve_of_pass hrun)]
    rw [hdispatch] at honRead
    have hresolved := HttpRouter.run_resolve_of_pass hrun
    cases hfind : HttpRouter.findRoute req' {} false (registerHttpRoutes V env).routes with
    | refused res => exact absurd hfind (HttpRouter.findRoute_ne_refused res)
    | handled route req'' res'' =>
      obtain ⟨hmem, hpath, hmethod, rfl, rfl⟩ := HttpRouter.of_findRoute_eq_handled hfind
      rw [hfind] at honRead hresolved
      exact .inl ⟨route, req'', hmem, hsame, hmethod.trans hsame.method,
        hpath.trans hsame.path, hresolved, honRead⟩
    | methodNotAllowed res =>
      obtain ⟨rfl, hmatched, hother⟩ := HttpRouter.of_findRoute_eq_methodNotAllowed hfind
      rw [hfind] at honRead hresolved
      refine .inr ⟨by rw [honRead]; rfl, ?_, .inr fun _ _ _ _ h => ?_⟩
      · rw [honRead]
        rw [hsame.path] at hmatched hother
        rw [hsame.method] at hother
        exact .methodNotAllowed (hmatched.resolve_left (by simp)) hother
      · rw [hresolved] at h
        cases h
    | notFound res =>
      obtain ⟨-, rfl, hother⟩ := HttpRouter.of_findRoute_eq_notFound hfind
      rw [hfind] at honRead hresolved
      refine .inr ⟨by rw [honRead]; rfl, ?_, .inr fun _ _ _ _ h => ?_⟩
      · rw [honRead]
        exact .notFound (hsame.path ▸ hother)
      · rw [hresolved] at h
        cases h

/-- A request to a route that is not public is handled if it carries the token of somebody who is no
viewer. -/
theorem handled_of_sendsToken {claims : UserClaims} {route : Route AppState}
    (hroute : route ∈ (registerHttpRoutes V env).routes)
    (hmethod : (HttpSession.beastToApp bReq).method = route.method)
    (hpath : (HttpSession.beastToApp bReq).path = route.path) (hoptions : route.method ≠ .options)
    (hpublic : isPublicPath route.path = false)
    (hsends : SendsToken V env.now.seconds s.authService bReq claims)
    (hrole : claims.role ≠ .viewer) : ∃ req, Handled V env enableCors bReq s route req := by
  rcases handled_or_unhandled V env enableCors bReq s with ⟨route', req, h⟩ | h
  · obtain rfl := h.route_eq route hroute hmethod hpath
    exact ⟨req, h⟩
  · obtain ⟨req, res, hsame, hresolve⟩ := run_resolve_of_carries env s {} (hpath ▸ hpublic)
      (carriesToken_beastToApp_iff.mpr hsends)
    rw [if_pos hrole, HttpRouter.findRoute_of_mem nodup_routes hroute
      (hmethod.symm.trans hsame.method.symm) (hpath.symm.trans hsame.path.symm)] at hresolve
    rcases h.unresolved with hmethod' | hunresolved
    · exact absurd (hmethod.symm.trans hmethod') hoptions
    · exact absurd hresolve (hunresolved route req res s)

/-- Requests to other routes leave the devices alone. -/
theorem undisturbed_onRead (hother : ¬ ReachesDevices (HttpSession.beastToApp bReq).method
    (HttpSession.beastToApp bReq).path) :
    Undisturbed s (HttpSession.onRead (registerHttpRoutes V env) enableCors bReq s).2 := by
  rcases handled_or_unhandled V env enableCors bReq s with ⟨route, req, h⟩ | h
  · rw [h.onRead]
    refine undisturbed_handler req {} h.mem ?_ s
    rwa [h.method, h.path]
  · rw [h.state]
    exact .refl s

end Requests

end IotDashboard
